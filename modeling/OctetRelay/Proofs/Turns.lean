/-
# A wait turn by turn

A wait looks at its flag before each question.  What it has before it then, the
flag and the topics still missing, is a `Look`; a question leads from one look to
the next, and what is done in between is a turn:

| the reply | the turn | missing at the next look |
| --- | --- | --- |
| lists the topic | a question, a log entry | the topics behind it |
| does not | a question, a log entry, a pause | the same |

A wait that returns is a course of turns: the flag is up and a topic is missing at
each look but the last (`exists_course`).  So its questions are counted by its
turns, and its pauses by the turns that do not find their topic
(`turns_counts`).  The other way round, looks that go on with the flag up are the
looks of a wait with patience enough (`waitFrom_turns`, `course_of_pauses_le`).

Source: `wait_for`; `SPEC_FULL.md` 4.2, Topic Availability Gate.
-/

import Mathlib.Order.Nat
import OctetRelay.Proofs.Waiting

namespace OctetRelay
namespace Gate

/-- What a wait has before it when it looks at the flag before a question. -/
structure Look where
  /-- Whether the flag is up. -/
  up : Bool
  /-- The topics that have not been found. -/
  missing : List String

/-- The look that follows a question, if there is anything to ask for. -/
def Look.next (look : Look) (reply : Reply) : Look :=
  match look.missing with
  | [] => look
  | topic :: rest =>
    if reply.lists topic then { up := look.up && !reply.stopInQuery, missing := rest }
    else
      { up := look.up && (!reply.stopInQuery && !reply.stopInPause), missing := topic :: rest }

/-- The look before the question of a number, as it is unless the flag was down at an earlier
one. -/
def look (replies : Nat → Reply) (running : Bool) (topics : List String) : Nat → Look
  | 0 => { up := running, missing := topics }
  | query + 1 => (look replies running topics query).next (replies query)

/-- What a question for a topic makes a wait do until it looks again. -/
def Reply.turn (reply : Reply) (topic : String) : Trace :=
  if reply.lists topic then [.queried, .logged (.topicAvailable topic)]
  else [.queried, .logged (reply.missEvent topic), .paused]

/-- What a wait does from one look to the next. -/
def Look.turn (look : Look) (reply : Reply) : Trace :=
  match look.missing with
  | [] => []
  | topic :: _ => reply.turn topic

/-- The topics that were missing when a wait ended. -/
def Outcome.pending : Outcome → List String
  | .ready => []
  | .cancelled topics | .exhausted topics => topics

/-- How a wait ends that stops at a look. -/
def Look.outcome (look : Look) : Outcome :=
  match look.missing with
  | [] => .ready
  | topic :: rest => .cancelled (topic :: rest)

variable (replies : Nat → Reply) (running : Bool) (topics : List String)

/-- Whether a wait that gets to a look asks the question of its number. -/
def Asks (query : Nat) : Prop :=
  (look replies running topics query).up = true ∧ (look replies running topics query).missing ≠ []

/-- So many turns, the first one with the question of number `start`. -/
def turns (start count : Nat) : Trace :=
  (List.range' start count).flatMap fun query =>
    (look replies running topics query).turn (replies query)

/-- A wait takes so many turns, the first one with the question of number `start`, and stops at the
look behind them. -/
structure Course (start count : Nat) (waited : Waited) : Prop where
  asks : ∀ query, start ≤ query → query < start + count → Asks replies running topics query
  stops : ¬ Asks replies running topics (start + count)
  outcome : waited.outcome = (look replies running topics (start + count)).outcome
  flag : waited.running = (look replies running topics (start + count)).up
  trace : waited.trace = turns replies running topics start count

variable {replies running topics}

/-- With no topic missing nothing changes any more. -/
theorem Look.next_nil {look : Look} (h : look.missing = []) (reply : Reply) :
    look.next reply = look := by
  simp only [next, h]

/-- A topic that is listed is no longer missing, and a request in the question counts. -/
theorem Look.next_listed {look : Look} {topic : String} {rest : List String}
    (h : look.missing = topic :: rest) {reply : Reply} (hlists : reply.lists topic = true) :
    look.next reply = { up := look.up && !reply.stopInQuery, missing := rest } := by
  simp only [next, h, hlists, if_true]

/-- A topic that is missed stays, and a request in the pause counts too. -/
theorem Look.next_missed {look : Look} {topic : String} {rest : List String}
    (h : look.missing = topic :: rest) {reply : Reply} (hlists : reply.lists topic = false) :
    look.next reply =
      { up := look.up && (!reply.stopInQuery && !reply.stopInPause)
        missing := topic :: rest } := by
  simp only [next, h, hlists, Bool.false_eq_true, if_false]

/-- With no topic missing the wait ends well. -/
theorem Look.outcome_of_nil {look : Look} (h : look.missing = []) : look.outcome = .ready := by
  simp only [outcome, h]

/-- With topics missing a wait that ends is cancelled with them. -/
theorem Look.outcome_of_ne_nil {look : Look} (h : look.missing ≠ []) :
    look.outcome = .cancelled look.missing := by
  obtain ⟨topic, rest, htopics⟩ := List.exists_cons_of_ne_nil h
  simp only [outcome, htopics]

/-- The outcome tells the topics that are missing. -/
theorem Look.pending_outcome (look : Look) : look.outcome.pending = look.missing := by
  cases hmissing : look.missing with
  | nil => simp only [outcome, hmissing, Outcome.pending]
  | cons topic rest => simp only [outcome, hmissing, Outcome.pending]

/-- From look to look the flag never goes up again, and no topic is missing anew. -/
theorem Look.next_le (look : Look) (reply : Reply) :
    ((look.next reply).up = true → look.up = true) ∧
      (look.next reply).missing <:+ look.missing := by
  cases hmissing : look.missing with
  | nil =>
    rw [next_nil hmissing, hmissing]
    exact ⟨id, List.suffix_refl _⟩
  | cons topic rest =>
    cases hlists : reply.lists topic with
    | true =>
      rw [next_listed hmissing hlists, Bool.and_eq_true]
      exact ⟨And.left, List.suffix_cons topic rest⟩
    | false =>
      rw [next_missed hmissing hlists, Bool.and_eq_true]
      exact ⟨And.left, List.suffix_refl _⟩

/-- What holds from look to look holds from any look to any later one. -/
theorem look_le {query later : Nat} (h : query ≤ later) :
    ((look replies running topics later).up = true →
      (look replies running topics query).up = true) ∧
      (look replies running topics later).missing <:+
        (look replies running topics query).missing := by
  induction later, h using Nat.le_induction with
  | base => exact ⟨id, List.suffix_refl _⟩
  | succ later _ ih =>
    have hnext := (look replies running topics later).next_le (replies later)
    exact ⟨fun hup => ih.1 (hnext.1 hup), hnext.2.trans ih.2⟩

/-- What is missing at a look is the end of all topics. -/
theorem missing_suffix (query : Nat) : (look replies running topics query).missing <:+ topics :=
  (look_le (Nat.zero_le query)).2

/-- Topics that are missing at a look were missing before. -/
theorem missing_ne_nil_of_le {query later : Nat} (h : query ≤ later)
    (hmissing : (look replies running topics later).missing ≠ []) :
    (look replies running topics query).missing ≠ [] := by
  intro hnil
  have hsuffix : (look replies running topics later).missing <:+
      (look replies running topics query).missing := (look_le h).2
  rw [hnil] at hsuffix
  exact hmissing (List.suffix_nil.1 hsuffix)

/-- Turns are taken one after the other. -/
theorem turns_succ (start count : Nat) :
    turns replies running topics start (count + 1) =
      turns replies running topics start count ++
        (look replies running topics (start + count)).turn (replies (start + count)) := by
  simp only [turns, List.range'_concat, List.flatMap_append, List.flatMap_singleton, Nat.one_mul]

/-- Turns can be taken off at the front as well. -/
theorem turns_cons (start count : Nat) :
    turns replies running topics start (count + 1) =
      (look replies running topics start).turn (replies start) ++
        turns replies running topics (start + 1) count := by
  simp only [turns, List.range'_succ, List.flatMap_cons]

/-- A turn that finds its topic asks and logs. -/
theorem Look.turn_listed {look : Look} {topic : String} {rest : List String}
    (h : look.missing = topic :: rest) {reply : Reply} (hlists : reply.lists topic = true) :
    look.turn reply = [.queried, .logged (.topicAvailable topic)] := by
  simp only [turn, h, Reply.turn, hlists, if_true]

/-- A turn that misses its topic asks, logs and pauses. -/
theorem Look.turn_missed {look : Look} {topic : String} {rest : List String}
    (h : look.missing = topic :: rest) {reply : Reply} (hlists : reply.lists topic = false) :
    look.turn reply = [.queried, .logged (reply.missEvent topic), .paused] := by
  simp only [turn, h, Reply.turn, hlists, Bool.false_eq_true, if_false]

/-- A turn asks one question, and pauses just if it leaves as many topics missing as before. -/
theorem Look.turn_counts {look : Look} (h : look.missing ≠ []) (reply : Reply) :
    (look.turn reply).queries = 1 ∧
      (look.turn reply).pauses + look.missing.length = 1 + (look.next reply).missing.length := by
  obtain ⟨topic, rest, htopics⟩ := List.exists_cons_of_ne_nil h
  cases hlists : reply.lists topic with
  | true =>
    rw [turn_listed htopics hlists, next_listed htopics hlists, htopics]
    exact ⟨rfl, by simp [Trace.pauses]; omega⟩
  | false =>
    rw [turn_missed htopics hlists, next_missed htopics hlists, htopics]
    exact ⟨rfl, rfl⟩

/-- **Questions are counted by turns, and pauses by those of them that do not find their topic.** -/
theorem turns_counts {count : Nat}
    (h : ∀ query, query < count → (look replies running topics query).missing ≠ []) :
    (turns replies running topics 0 count).queries = count ∧
      (turns replies running topics 0 count).pauses + topics.length =
        count + (look replies running topics count).missing.length := by
  induction count with
  | zero => exact ⟨rfl, rfl⟩
  | succ count ih =>
    obtain ⟨hqueries, hpauses⟩ := ih fun query hlt => h query (Nat.lt_succ_of_lt hlt)
    obtain ⟨hquery, hpause⟩ :=
      Look.turn_counts (h count (Nat.lt_succ_self count)) (replies count)
    rw [turns_succ, Nat.zero_add, Trace.queries_append, Trace.pauses_append, hqueries, hquery, look]
    exact ⟨rfl, by omega⟩

/-- **A wait takes turn after turn** while the flag is up and a topic is missing, with so much
patience as it takes. -/
theorem waitFrom_turns {count : Nat}
    (hasks : ∀ query, query < count → Asks replies running topics query) (patience : Nat) :
    waitFrom replies (patience + (turns replies running topics 0 count).pauses) 0 running topics =
      (waitFrom replies patience count (look replies running topics count).up
        (look replies running topics count).missing).after
        (turns replies running topics 0 count) := by
  induction count generalizing patience with
  | zero => rfl
  | succ count ih =>
    have hwait := ih fun query hlt => hasks query (Nat.lt_succ_of_lt hlt)
    obtain ⟨hup, hmissing⟩ := hasks count (Nat.lt_succ_self count)
    obtain ⟨topic, rest, htopics⟩ := List.exists_cons_of_ne_nil hmissing
    rw [turns_succ, Nat.zero_add, look, Trace.pauses_append]
    cases hlists : (replies count).lists topic with
    | true =>
      have hpauses : (Trace.pauses [.queried, .logged (.topicAvailable topic)]) = 0 := rfl
      rw [Look.turn_listed htopics hlists, hpauses, Nat.add_zero, hwait, hup, htopics,
        waitFrom_listed hlists, Look.next_listed htopics hlists, hup, Bool.true_and]
      simp only [Waited.after, List.append_assoc]
    | false =>
      have hpauses : Trace.pauses [.queried, .logged ((replies count).missEvent topic), .paused] =
        1 := rfl
      rw [Look.turn_missed htopics hlists, hpauses, ← Nat.add_assoc, Nat.add_right_comm, hwait, hup,
        htopics, waitFrom_missed_succ hlists, Look.next_missed htopics hlists, hup, Bool.true_and]
      simp only [Waited.after, List.append_assoc]

/-- A wait stops at a look where it asks nothing. -/
theorem waitFrom_of_not_asks {query : Nat} (h : ¬ Asks replies running topics query)
    (patience : Nat) :
    waitFrom replies patience query (look replies running topics query).up
        (look replies running topics query).missing =
      { outcome := (look replies running topics query).outcome
        running := (look replies running topics query).up
        trace := [] } := by
  cases hmissing : (look replies running topics query).missing with
  | nil =>
    rw [waitFrom_nil, Look.outcome, hmissing]
  | cons topic rest =>
    have hdown : (look replies running topics query).up = false :=
      eq_false_of_ne_true fun hup => h ⟨hup, hmissing ▸ List.cons_ne_nil topic rest⟩
    rw [hdown, waitFrom_stopped, Look.outcome, hmissing]

/-- **A wait runs its course** if it has patience for the pauses. -/
theorem course_of_pauses_le {patience count : Nat}
    (hasks : ∀ query, query < count → Asks replies running topics query)
    (hstops : ¬ Asks replies running topics count)
    (hpatience : (turns replies running topics 0 count).pauses ≤ patience) :
    Course replies running topics 0 count (wait replies patience running topics) := by
  obtain ⟨left, rfl⟩ := Nat.exists_eq_add_of_le' hpatience
  have hwait := waitFrom_turns hasks left
  rw [waitFrom_of_not_asks hstops] at hwait
  rw [wait, hwait]
  refine ⟨fun query _ hlt => hasks query (by omega), ?_, ?_, ?_, List.append_nil _⟩
  · rwa [Nat.zero_add]
  · rw [Nat.zero_add]
    rfl
  · rw [Nat.zero_add]
    rfl

/-- One turn more in front of a course. -/
theorem Course.cons {query count : Nat} {waited : Waited}
    (h : Course replies running topics (query + 1) count waited)
    (hasks : Asks replies running topics query) :
    Course replies running topics query (count + 1)
      (waited.after ((look replies running topics query).turn (replies query))) := by
  have hlast : query + 1 + count = query + (count + 1) := by omega
  refine ⟨fun later hle hlt => ?_, hlast ▸ h.stops, hlast ▸ h.outcome, hlast ▸ h.flag, ?_⟩
  · rcases Nat.eq_or_lt_of_le hle with rfl | hless
    · exact hasks
    · exact h.asks later hless (by omega)
  · rw [turns_cons, ← h.trace]
    rfl

/-- **A wait has a course from any look on**, if its patience lasts. -/
theorem exists_course_from {patience query : Nat} {up : Bool} {missing : List String}
    (hlook : look replies running topics query = { up, missing })
    (h : ∀ pending, (waitFrom replies patience query up missing).outcome ≠ .exhausted pending) :
    ∃ count, Course replies running topics query count
      (waitFrom replies patience query up missing) := by
  -- the induction is on the questions of the wait; a turn goes in front of those that follow it
  induction patience, query, up, missing using waitFrom.induct replies with
  | case1 patience query up =>
    have hstops : ¬ Asks replies running topics query := by simp [Asks, hlook]
    have hwait := waitFrom_of_not_asks hstops patience
    rw [hlook] at hwait
    rw [hwait]
    refine ⟨0, fun _ _ _ => by omega, hstops, ?_, ?_, rfl⟩ <;> rw [Nat.add_zero, hlook]
  | case2 patience query topic rest reply up hlists ih =>
    have hmissing : (look replies running topics query).missing = topic :: rest := by rw [hlook]
    have hasks : Asks replies running topics query := by simp [Asks, hlook]
    have hnext : look replies running topics (query + 1) = { up, missing := rest } := by
      rw [look, Look.next_listed hmissing hlists, hlook]
      rfl
    rw [waitFrom_listed hlists] at h ⊢
    obtain ⟨count, hcourse⟩ := ih hnext h
    have hturn := hcourse.cons hasks
    rw [Look.turn_listed hmissing hlists] at hturn
    exact ⟨count + 1, hturn⟩
  | case3 query topic rest reply hlists =>
    rw [waitFrom_missed_zero (eq_false_of_ne_true hlists)] at h
    exact absurd rfl (h (topic :: rest))
  | case4 query topic rest reply up hlists patience ih =>
    have hmissed : (replies query).lists topic = false := eq_false_of_ne_true hlists
    have hmissing : (look replies running topics query).missing = topic :: rest := by rw [hlook]
    have hasks : Asks replies running topics query := by simp [Asks, hlook]
    have hnext : look replies running topics (query + 1) =
        { up := up && !reply.stopInPause, missing := topic :: rest } := by
      rw [look, Look.next_missed hmissing hmissed, hlook]
      rfl
    rw [waitFrom_missed_succ hmissed] at h ⊢
    obtain ⟨count, hcourse⟩ := ih hnext h
    have hturn := hcourse.cons hasks
    rw [Look.turn_missed hmissing hmissed] at hturn
    exact ⟨count + 1, hturn⟩
  | case5 patience query up topic rest hdown =>
    obtain rfl := eq_false_of_ne_true hdown
    have hstops : ¬ Asks replies running topics query := by simp [Asks, hlook]
    have hwait := waitFrom_of_not_asks hstops patience
    rw [hlook] at hwait
    rw [hwait]
    refine ⟨0, fun _ _ _ => by omega, hstops, ?_, ?_, rfl⟩ <;> rw [Nat.add_zero, hlook]

section Course

variable {count : Nat} {waited : Waited}

/-- What is pending behind a course is what is missing at its last look. -/
theorem Course.pending_eq (h : Course replies running topics 0 count waited) :
    waited.outcome.pending = (look replies running topics count).missing := by
  rw [h.outcome, Look.pending_outcome, Nat.zero_add]

/-- A topic is missing at each look of a course but the last. -/
theorem Course.missing_ne_nil (h : Course replies running topics 0 count waited) {query : Nat}
    (hlt : query < count) : (look replies running topics query).missing ≠ [] :=
  (h.asks query (Nat.zero_le query) (by omega)).2

/-- **A course asks once each turn**, and pauses in the turns that do not find their topic. -/
theorem Course.counts (h : Course replies running topics 0 count waited) :
    waited.trace.queries = count ∧
      waited.trace.pauses + topics.length =
        count + (look replies running topics count).missing.length := by
  rw [h.trace]
  exact turns_counts fun query => h.missing_ne_nil

end Course

/-- **A wait whose patience lasts has a course.** -/
theorem exists_course {patience : Nat}
    (h : ∀ pending, (wait replies patience running topics).outcome ≠ .exhausted pending) :
    ∃ count, Course replies running topics 0 count (wait replies patience running topics) :=
  exists_course_from rfl h

/-- A wait does not pause more often than it has patience for. -/
theorem pauses_waitFrom_le (patience query : Nat) (up : Bool) (missing : List String) :
    (waitFrom replies patience query up missing).trace.pauses ≤ patience := by
  induction patience, query, up, missing using waitFrom.induct replies with
  | case1 patience query up =>
    rw [waitFrom_nil]
    exact Nat.zero_le patience
  | case2 patience query topic rest reply up hlists ih =>
    rw [waitFrom_listed hlists, Waited.after, Trace.pauses_append]
    exact (Nat.zero_add _).trans_le ih
  | case3 query topic rest reply hlists =>
    rw [waitFrom_missed_zero (eq_false_of_ne_true hlists)]
    exact Nat.le_refl 0
  | case4 query topic rest reply up hlists patience ih =>
    rw [waitFrom_missed_succ (eq_false_of_ne_true hlists), Waited.after, Trace.pauses_append,
      Nat.add_comm]
    exact Nat.succ_le_succ ih
  | case5 patience query up topic rest hdown =>
    obtain rfl := eq_false_of_ne_true hdown
    rw [waitFrom_stopped]
    exact Nat.zero_le patience

end Gate
end OctetRelay
