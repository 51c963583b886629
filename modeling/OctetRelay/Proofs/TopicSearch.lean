/-
# How waiting for topics ends

Topics are looked for one after the other, each with a question of its own: the
first one, later than the question that found the topic before, whose answer
mentions it (`FirstMention`, `Finds`).  That an earlier answer mentioned the
topic as well does not count.

The flag is looked at before each question.  It is up if shutdown was requested
neither beforehand, nor during an earlier question, nor in a pause (`UpAt`); a
question that finds its topic is followed by no pause.

`wait_settles` says that waiting succeeds just when every topic is found by a
question before which the flag is up, and that it is cancelled just when the flag
is down before a question that would look for the next topic: that topic and
those behind it are then pending.  Both halves are inductions on the data that
they start from, with the number of the first question general: on the questions
of a wait (`Waits.ends`), and on the topics found (`waits_of_finds`).

Source: `wait_for`; `SPEC_FULL.md` 8, when the gate succeeds.
-/

import Mathlib.Logic.Function.Basic
import OctetRelay.Proofs.Waiting

namespace OctetRelay

/-- The effects of a trace apart from what it logs. -/
def Trace.acts (trace : Trace) : Trace := trace.filter fun effect => effect.event?.isNone

namespace Gate

/-- Whether a reply is an answer that mentions a topic. -/
def Reply.Mentions (reply : Reply) (topic : String) : Prop :=
  ∃ names, reply.answer = .ok names ∧ topic ∈ names

/-- A reply lists the topics that it mentions. -/
theorem Reply.lists_iff_mentions {reply : Reply} {topic : String} :
    reply.lists topic = true ↔ reply.Mentions topic := by
  unfold lists Mentions
  cases reply.answer <;> simp

/-- It lists no others. -/
theorem Reply.lists_eq_false_iff {reply : Reply} {topic : String} :
    reply.lists topic = false ↔ ¬ reply.Mentions topic := by
  rw [← lists_iff_mentions, Bool.not_eq_true]

variable (replies : Nat → Reply)

/-- The first question, from the one of number `start` on, whose answer mentions a topic. -/
structure FirstMention (topic : String) (start query : Nat) : Prop where
  start_le : start ≤ query
  mentions : (replies query).Mentions topic
  first : ∀ earlier, start ≤ earlier → earlier < query → ¬ (replies earlier).Mentions topic

/-- Topics found one after the other, from the question of number `start` on: the questions that
find them, and the number of the question behind the last of these. -/
inductive Finds : Nat → List String → List Nat → Nat → Prop where
  | none (start : Nat) : Finds start [] [] start
  | next {start query next : Nat} {topic : String} {rest : List String} {found : List Nat}
    (hquery : FirstMention replies topic start query) (hrest : Finds (query + 1) rest found next) :
    Finds start (topic :: rest) (query :: found) next

/-- Whether the flag is up at the look before a question, when the waiting started with the
question of number `start` and the questions `found` have found their topics. -/
def UpAt (running : Bool) (found : List Nat) (start query : Nat) : Prop :=
  running = true ∧ ∀ earlier, start ≤ earlier → earlier < query →
    (replies earlier).stopInQuery = false ∧
      (earlier ∉ found → (replies earlier).stopInPause = false)

/-- Whether every topic is found, by a question before which the flag is up. -/
def FindsAll (running : Bool) (start : Nat) (topics : List String) : Prop :=
  ∃ found next, Finds replies start topics found next ∧
    ∀ query ∈ found, UpAt replies running found start query

/-- Whether shutdown is noticed while topics are pending: those before them are found, the first of
them is not mentioned up to some question, and before that question, for the first time, the flag
is down. -/
def CutOff (running : Bool) (start : Nat) (topics pending : List String) : Prop :=
  ∃ front topic rest found next check,
    pending = topic :: rest ∧ topics = front ++ pending ∧
      Finds replies start front found next ∧ next ≤ check ∧
      (∀ query, next ≤ query → query < check → ¬ (replies query).Mentions topic) ∧
      (∀ query, start ≤ query → query < check → UpAt replies running found start query) ∧
      ¬ UpAt replies running found start check

variable {replies}

/-- Questions that find topics come in order, from the first one on. -/
theorem Finds.bounds {start next : Nat} {topics : List String} {found : List Nat}
    (h : Finds replies start topics found next) :
    start ≤ next ∧ (∀ query ∈ found, start ≤ query ∧ query < next) ∧ found.Pairwise (· < ·) := by
  induction h with
  | none start => exact ⟨Nat.le_refl start, by simp, .nil⟩
  | next hquery _ ih =>
    obtain ⟨hle, hbounds, hpairwise⟩ := ih
    have hstart := hquery.start_le
    refine ⟨by omega, ?_, .cons (fun other hother => (hbounds other hother).1) hpairwise⟩
    rintro other (_ | ⟨_, hother⟩)
    · omega
    · have := hbounds other hother
      omega

/-- Each topic is found by a question of its own. -/
theorem Finds.length_eq {start next : Nat} {topics : List String} {found : List Nat}
    (h : Finds replies start topics found next) : found.length = topics.length := by
  induction h with
  | none start => rfl
  | next _ _ ih => rw [List.length_cons, List.length_cons, ih]

/-- At the start the flag is what it was before. -/
theorem upAt_start {running : Bool} {found : List Nat} {start : Nat} :
    UpAt replies running found start start ↔ running = true :=
  and_iff_left fun _ hle hlt => absurd hlt (Nat.not_lt.2 hle)

/-- The flag can be followed from any question on. -/
theorem upAt_split {running up : Bool} {found : List Nat} {start middle query : Nat}
    (hup : up = true ↔ UpAt replies running found start middle) (hstart : start ≤ middle)
    (hmiddle : middle ≤ query) :
    UpAt replies running found start query ↔ UpAt replies up found middle query := by
  constructor
  · rintro ⟨hrunning, hquery⟩
    refine ⟨hup.2 ⟨hrunning, fun earlier hle hlt => hquery earlier hle (by omega)⟩, ?_⟩
    exact fun earlier hle hlt => hquery earlier (by omega) hlt
  · rintro ⟨hmid, hquery⟩
    obtain ⟨hrunning, hbefore⟩ := hup.1 hmid
    refine ⟨hrunning, fun earlier hle hlt => ?_⟩
    rcases Nat.lt_or_ge earlier middle with hless | hge
    · exact hbefore earlier hle hless
    · exact hquery earlier hge hlt

/-- Behind a question that finds its topic, shutdown was requested only if it was during it. -/
theorem upAt_listed {found : List Nat} {start query : Nat} (h : start < query) :
    UpAt replies true (start :: found) start query ↔
      UpAt replies (!(replies start).stopInQuery) found (start + 1) query := by
  have hmem : ∀ earlier, start + 1 ≤ earlier → (earlier ∈ start :: found ↔ earlier ∈ found) := by
    intro earlier hle
    have hne : earlier ≠ start := by omega
    simp [hne]
  have hone : (!(replies start).stopInQuery) = true ↔
      UpAt replies true (start :: found) start (start + 1) := by
    constructor
    · intro hup
      refine ⟨rfl, fun earlier hle hlt => ?_⟩
      obtain rfl : earlier = start := by omega
      exact ⟨by simpa using hup, fun hnot => absurd (List.mem_cons_self ..) hnot⟩
    · rintro ⟨-, hquery⟩
      rw [(hquery start (Nat.le_refl start) (Nat.lt_succ_self start)).1]
      rfl
  rw [upAt_split hone (Nat.le_succ start) h]
  refine and_congr_right fun _ => forall_congr' fun earlier => forall_congr' fun hle => ?_
  rw [hmem earlier hle]

/-- Behind a question that misses its topic, shutdown may also have been requested in the pause. -/
theorem upAt_missed {found : List Nat} {start query : Nat} (h : start < query)
    (hfound : start ∉ found) :
    UpAt replies true found start query ↔
      UpAt replies (!(replies start).stopInQuery && !(replies start).stopInPause) found (start + 1)
        query := by
  refine upAt_split ?_ (Nat.le_succ start) h
  constructor
  · intro hup
    rw [Bool.and_eq_true, Bool.not_eq_true', Bool.not_eq_true'] at hup
    refine ⟨rfl, fun earlier hle hlt => ?_⟩
    obtain rfl : earlier = start := by omega
    exact ⟨hup.1, fun _ => hup.2⟩
  · rintro ⟨-, hquery⟩
    obtain ⟨hinQuery, hinPause⟩ := hquery start (Nat.le_refl start) (Nat.lt_succ_self start)
    rw [hinQuery, hinPause hfound]
    rfl

/-- A topic that a question does not mention is looked for from the next question on. -/
theorem FirstMention.of_succ {topic : String} {start query : Nat}
    (hmissed : ¬ (replies start).Mentions topic)
    (h : FirstMention replies topic (start + 1) query) :
    FirstMention replies topic start query := by
  refine ⟨Nat.le_of_succ_le h.start_le, h.mentions, fun earlier hle hlt => ?_⟩
  rcases Nat.eq_or_lt_of_le hle with rfl | hlt'
  · exact hmissed
  · exact h.first earlier hlt' hlt

/-- A topic that is mentioned at once is first mentioned there. -/
theorem firstMention_self {topic : String} {start : Nat} (h : (replies start).Mentions topic) :
    FirstMention replies topic start start :=
  ⟨Nat.le_refl start, h, fun _ hle hlt => absurd hlt (Nat.not_lt.2 hle)⟩

/-- A question that finds its topic is the first of those that find all. -/
theorem findsAll_listed {start : Nat} {topic : String} {rest : List String}
    (hmentions : (replies start).Mentions topic)
    (h : FindsAll replies (!(replies start).stopInQuery) (start + 1) rest) :
    FindsAll replies true start (topic :: rest) := by
  obtain ⟨found, next, hfinds, hup⟩ := h
  refine ⟨start :: found, next, .next (firstMention_self hmentions) hfinds, ?_⟩
  rintro query (_ | ⟨_, hquery⟩)
  · exact upAt_start.2 rfl
  · have hlt : start < query := (hfinds.bounds.2.1 query hquery).1
    exact (upAt_listed hlt).2 (hup query hquery)

/-- A question that misses its topic does not change what finds all. -/
theorem findsAll_missed {start : Nat} {topic : String} {rest : List String}
    (hmissed : ¬ (replies start).Mentions topic)
    (h : FindsAll replies (!(replies start).stopInQuery && !(replies start).stopInPause)
      (start + 1) (topic :: rest)) :
    FindsAll replies true start (topic :: rest) := by
  obtain ⟨found, next, hfinds, hup⟩ := h
  have hbounds := hfinds.bounds.2.1
  have hnot : start ∉ found := fun hmem =>
    absurd (hbounds start hmem).1 (Nat.not_succ_le_self start)
  cases hfinds with
  | next hquery hrest =>
    refine ⟨_, next, .next (hquery.of_succ hmissed) hrest, fun query hmem => ?_⟩
    exact (upAt_missed (hbounds query hmem).1 hnot).2 (hup query hmem)

/-- A topic found before shutdown is noticed is not pending. -/
theorem cutOff_listed {start : Nat} {topic : String} {rest pending : List String}
    (hmentions : (replies start).Mentions topic)
    (h : CutOff replies (!(replies start).stopInQuery) (start + 1) rest pending) :
    CutOff replies true start (topic :: rest) pending := by
  obtain ⟨front, first, others, found, next, check, hpending, hrest, hfinds, hcheck, hnone, hup,
    hdown⟩ := h
  have hnext : start + 1 ≤ next := hfinds.bounds.1
  refine ⟨topic :: front, first, others, start :: found, next, check, hpending, ?_,
    .next (firstMention_self hmentions) hfinds, hcheck, hnone, fun query hle hlt => ?_, ?_⟩
  · rw [hrest, List.cons_append]
  · rcases Nat.eq_or_lt_of_le hle with rfl | hless
    · exact upAt_start.2 rfl
    · exact (upAt_listed hless).2 (hup query hless hlt)
  · rw [upAt_listed (by omega)]
    exact hdown

/-- A question that misses the first of the topics leaves it to be looked for, or pending. -/
theorem cutOff_missed {start : Nat} {topic : String} {rest pending : List String}
    (hmissed : ¬ (replies start).Mentions topic)
    (h : CutOff replies (!(replies start).stopInQuery && !(replies start).stopInPause) (start + 1)
      (topic :: rest) pending) :
    CutOff replies true start (topic :: rest) pending := by
  obtain ⟨front, first, others, found, next, check, hpending, htopics, hfinds, hcheck, hnone, hup,
    hdown⟩ := h
  obtain ⟨hnext, hbounds, -⟩ := hfinds.bounds
  have hnot : start ∉ found := fun hmem =>
    absurd (hbounds start hmem).1 (Nat.not_succ_le_self start)
  have hup' : ∀ query, start ≤ query → query < check → UpAt replies true found start query := by
    intro query hle hlt
    rcases Nat.eq_or_lt_of_le hle with rfl | hless
    · exact upAt_start.2 rfl
    · exact (upAt_missed hless hnot).2 (hup query hless hlt)
  have hdown' : ¬ UpAt replies true found start check := by
    rw [upAt_missed (by omega) hnot]
    exact hdown
  cases hfinds with
  | none =>
    -- the topic that was missed is the first one pending
    have hfirst : first = topic := by
      rw [hpending, List.nil_append] at htopics
      exact (List.cons.inj htopics).1.symm
    refine ⟨[], first, others, [], start, check, hpending, htopics, .none start, by omega,
      fun query hle hlt => ?_, hup', hdown'⟩
    rcases Nat.eq_or_lt_of_le hle with rfl | hless
    · exact hfirst ▸ hmissed
    · exact hnone query hless hlt
  | @next _ query next found' front' found hquery hrest =>
    have hfirst : found' = topic := by
      rw [List.cons_append] at htopics
      exact (List.cons.inj htopics).1.symm
    exact ⟨_, first, others, _, _, check, hpending, htopics,
      .next (hquery.of_succ (hfirst ▸ hmissed)) hrest, hcheck, hnone, hup', hdown'⟩

/-- **Waiting that succeeds finds all; waiting that is cancelled is cut off.** -/
theorem Waits.ends {start : Nat} {running : Bool} {topics : List String} {outcome : Outcome}
    (h : Waits replies start running topics outcome) :
    (outcome = .ready → FindsAll replies running start topics) ∧
      ∀ pending, outcome = .cancelled pending → CutOff replies running start topics pending := by
  induction h with
  | ready start running =>
    refine ⟨fun _ => ⟨[], start, .none start, by simp⟩, fun pending hpending => ?_⟩
    cases hpending
  | cancelled start topic rest =>
    refine ⟨fun hready => ?_, fun pending hpending => ?_⟩
    · cases hready
    · obtain rfl := Outcome.cancelled.inj hpending
      refine ⟨[], topic, rest, [], start, start, rfl, rfl, .none start, Nat.le_refl start,
        fun query hle hlt => absurd hlt (Nat.not_lt.2 hle),
        fun query hle hlt => absurd hlt (Nat.not_lt.2 hle), ?_⟩
      rw [upAt_start]
      exact Bool.false_ne_true
  | listed hlists _ ih =>
    have hmentions := Reply.lists_iff_mentions.1 hlists
    exact ⟨fun hready => findsAll_listed hmentions (ih.1 hready),
      fun pending hpending => cutOff_listed hmentions (ih.2 pending hpending)⟩
  | missed hlists _ ih =>
    have hmissed := Reply.lists_eq_false_iff.1 hlists
    exact ⟨fun hready => findsAll_missed hmissed (ih.1 hready),
      fun pending hpending => cutOff_missed hmissed (ih.2 pending hpending)⟩

/-- Waiting goes on from question to question while they miss the first topic and the flag is up. -/
theorem waits_of_missed {start query : Nat} {running : Bool} {topic : String} {rest : List String}
    {found : List Nat} {outcome : Outcome} (hle : start ≤ query)
    (hfound : ∀ other ∈ found, query ≤ other)
    (hmissed : ∀ other, start ≤ other → other < query → ¬ (replies other).Mentions topic)
    (hup : ∀ other, start ≤ other → other < query → UpAt replies running found start other)
    (hwaits : ∀ up, (up = true ↔ UpAt replies running found start query) →
      Waits replies query up (topic :: rest) outcome) :
    Waits replies start running (topic :: rest) outcome := by
  obtain ⟨count, rfl⟩ := Nat.exists_eq_add_of_le hle
  induction count generalizing start running with
  | zero => exact hwaits running upAt_start.symm
  | succ count ih =>
    have hlt : start < start + (count + 1) := by omega
    have hrunning : running = true := upAt_start.1 (hup start (Nat.le_refl start) hlt)
    subst hrunning
    have hnot : start ∉ found := fun hmem => absurd (hfound start hmem) (Nat.not_le.2 hlt)
    have hshift : start + (count + 1) = start + 1 + count := by omega
    refine .missed (Reply.lists_eq_false_iff.2 (hmissed start (Nat.le_refl start) hlt)) ?_
    refine ih (by omega) (fun other hmem => hshift ▸ hfound other hmem) (fun other hge hless => ?_)
      (fun other hge hless => ?_) (fun up hiff => ?_)
    · exact hmissed other (by omega) (by omega)
    · exact (upAt_missed hge hnot).1 (hup other (by omega) (by omega))
    · rw [← hshift] at hiff ⊢
      exact hwaits up (hiff.trans (upAt_missed hlt hnot).symm)

/-- Waiting goes on from topic to topic while they are found and the flag is up. -/
theorem waits_of_finds {start next : Nat} {running : Bool} {front rest : List String}
    {found : List Nat} {outcome : Outcome} (hfinds : Finds replies start front found next)
    (hup : ∀ query ∈ found, UpAt replies running found start query)
    (hwaits : ∀ up, (up = true ↔ UpAt replies running found start next) →
      Waits replies next up rest outcome) :
    Waits replies start running (front ++ rest) outcome := by
  induction hfinds generalizing running with
  | none start => exact hwaits running upAt_start.symm
  | @next start query next topic front found hquery hrest ih =>
    obtain ⟨hnext, hbounds, -⟩ := hrest.bounds
    have hstart := hquery.start_le
    have hatQuery : UpAt replies running (query :: found) start query :=
      hup query (List.mem_cons_self ..)
    have hlater : ∀ other ∈ query :: found, query ≤ other := by
      rintro other (_ | ⟨_, hother⟩)
      · exact Nat.le_refl query
      · exact Nat.le_of_succ_le (hbounds other hother).1
    refine waits_of_missed hstart hlater hquery.first ?_ fun up hiff => ?_
    · exact fun other _ hlt => ⟨hatQuery.1, fun earlier hle hless =>
        hatQuery.2 earlier hle (by omega)⟩
    · obtain rfl : up = true := hiff.2 hatQuery
      -- from the question that finds the topic on, the flag is that of the rest
      have hfrom : ∀ other, query < other →
          (UpAt replies running (query :: found) start other ↔
            UpAt replies (!(replies query).stopInQuery) found (query + 1) other) :=
        fun other hlt => (upAt_split hiff hstart (Nat.le_of_lt hlt)).trans (upAt_listed hlt)
      refine .listed (Reply.lists_iff_mentions.2 hquery.mentions) (ih (fun other hother => ?_)
        fun up' hiff' => ?_)
      · exact (hfrom other (hbounds other hother).1).1 (hup other (List.mem_cons_of_mem _ hother))
      · exact hwaits up' (hiff'.trans (hfrom next hnext).symm)

/-- **Waiting succeeds just when it finds all.** -/
theorem waits_ready_iff {start : Nat} {running : Bool} {topics : List String} :
    Waits replies start running topics .ready ↔ FindsAll replies running start topics := by
  refine ⟨fun h => h.ends.1 rfl, fun ⟨found, next, hfinds, hup⟩ => ?_⟩
  have hwaits : Waits replies start running (topics ++ []) .ready :=
    waits_of_finds hfinds hup fun up _ => .ready next up
  rwa [List.append_nil] at hwaits

/-- **Waiting is cancelled just when it is cut off.** -/
theorem waits_cancelled_iff {start : Nat} {running : Bool} {topics pending : List String} :
    Waits replies start running topics (.cancelled pending) ↔
      CutOff replies running start topics pending := by
  refine ⟨fun h => h.ends.2 pending rfl, ?_⟩
  rintro ⟨front, topic, rest, found, next, check, rfl, rfl, hfinds, hcheck, hnone, hup, hdown⟩
  obtain ⟨hnext, hbounds, -⟩ := hfinds.bounds
  refine waits_of_finds hfinds (fun query hquery => ?_) fun up hiff => ?_
  · have hquery := hbounds query hquery
    exact hup query hquery.1 (by omega)
  · have hfrom : ∀ query, next ≤ query →
        (UpAt replies running found start query ↔ UpAt replies up [] next query) := by
      intro query hle
      rw [upAt_split hiff hnext hle]
      refine and_congr_right fun _ => forall_congr' fun earlier => forall_congr' fun hge => ?_
      have hnot : earlier ∉ found := fun hmem => absurd (hbounds earlier hmem).2 (Nat.not_lt.2 hge)
      simp [hnot]
    have hnothing : ∀ query ∈ ([] : List Nat), check ≤ query := by simp
    refine waits_of_missed hcheck hnothing hnone (fun query hle hlt => ?_) fun up' hiff' => ?_
    · exact (hfrom query hle).1 (hup query (by omega) hlt)
    · have hfalse : up' = false := by
        rw [← Bool.not_eq_true, hiff', ← hfrom check hcheck]
        exact hdown
      subst hfalse
      exact .cancelled check topic rest

/-- How a wait ends with any patience beyond some least one. -/
def Settles (replies : Nat → Reply) (running : Bool) (topics : List String) (outcome : Outcome) :
    Prop :=
  ∃ least, ∀ patience, least ≤ patience → (wait replies patience running topics).outcome = outcome

/-- A wait settles on the end that waiting has. -/
theorem settles_iff_waits {running : Bool} {topics : List String} {outcome : Outcome}
    (h : ∀ pending, outcome ≠ .exhausted pending) :
    Settles replies running topics outcome ↔ Waits replies 0 running topics outcome := by
  refine ⟨fun ⟨least, hleast⟩ => ?_, Waits.settles⟩
  have houtcome : (waitFrom replies least 0 running topics).outcome = outcome :=
    hleast least (Nat.le_refl least)
  rw [← houtcome]
  exact waits_of_outcome (houtcome.symm ▸ h)

/-- A reply with names in the place of an error. -/
def Reply.answering (reply : Reply) (names : List String) : Reply :=
  match reply.answer with
  | .ok _ => reply
  | .error _ => { reply with answer := .ok names }

/-- Names that leave a topic out say as much of it as an error. -/
theorem Reply.lists_answering {reply : Reply} {names : List String} {topic : String}
    (h : topic ∉ names) : (reply.answering names).lists topic = reply.lists topic := by
  unfold answering
  cases hanswer : reply.answer with
  | ok given => rfl
  | error reason => simp [lists, hanswer, h]

/-- Another answer leaves the requests for shutdown as they were. -/
theorem Reply.stops_answering (reply : Reply) (names : List String) :
    (reply.answering names).stopInQuery = reply.stopInQuery ∧
      (reply.answering names).stopInPause = reply.stopInPause := by
  unfold answering
  cases reply.answer <;> exact ⟨rfl, rfl⟩

/-- A wait never looks back at the replies to earlier questions. -/
theorem waitFrom_congr {others : Nat → Reply} (patience query : Nat) (running : Bool)
    (topics : List String) (h : ∀ later, query ≤ later → others later = replies later) :
    waitFrom others patience query running topics =
      waitFrom replies patience query running topics := by
  induction patience, query, running, topics using waitFrom.induct replies with
  | case1 patience query running => rw [waitFrom_nil, waitFrom_nil]
  | case2 patience query topic rest running reply hlists ih =>
    have hsame := h query (Nat.le_refl query)
    rw [waitFrom_listed hlists, waitFrom_listed (hsame ▸ hlists), hsame]
    exact congrArg _ (ih fun later hle => h later (Nat.le_of_succ_le hle))
  | case3 query topic rest reply hmissed =>
    have hsame := h query (Nat.le_refl query)
    have hlists := eq_false_of_ne_true hmissed
    rw [waitFrom_missed_zero hlists, waitFrom_missed_zero (hsame ▸ hlists), hsame]
  | case4 query topic rest reply running hmissed patience ih =>
    have hsame := h query (Nat.le_refl query)
    have hlists := eq_false_of_ne_true hmissed
    rw [waitFrom_missed_succ hlists, waitFrom_missed_succ (hsame ▸ hlists), hsame]
    exact congrArg _ (ih fun later hle => h later (Nat.le_of_succ_le hle))
  | case5 patience query running topic rest hrunning =>
    obtain rfl := eq_false_of_ne_true hrunning
    rw [waitFrom_stopped, waitFrom_stopped]

/-- **An error is as good as any answer that leaves the topic out**: nothing but the log can tell
them apart. -/
theorem waitFrom_answering (patience query : Nat) (running : Bool) {topic : String}
    (rest : List String) {names : List String} (h : topic ∉ names) :
    let others := Function.update replies query ((replies query).answering names)
    let waited := waitFrom replies patience query running (topic :: rest)
    let other := waitFrom others patience query running (topic :: rest)
    other.outcome = waited.outcome ∧ other.running = waited.running ∧
      other.trace.acts = waited.trace.acts := by
  intro others waited other
  have hhere : others query = (replies query).answering names := Function.update_self ..
  have hlater : ∀ later, query + 1 ≤ later → others later = replies later :=
    fun later hle => Function.update_of_ne (Nat.ne_of_gt hle) ..
  obtain ⟨hinQuery, hinPause⟩ := (replies query).stops_answering names
  have hlists : (others query).lists topic = (replies query).lists topic := by
    rw [hhere, Reply.lists_answering h]
  cases running with
  | false =>
    simp only [waited, other, waitFrom_stopped, and_self]
  | true =>
    cases hfound : (replies query).lists topic with
    | true =>
      simp only [waited, other, waitFrom_listed hfound, waitFrom_listed (hlists.trans hfound),
        hhere, hinQuery, waitFrom_congr _ _ _ _ hlater, and_self]
    | false =>
      cases patience with
      | zero =>
        simp only [waited, other, waitFrom_missed_zero hfound,
          waitFrom_missed_zero (hlists.trans hfound), hhere, hinQuery, true_and]
        rfl
      | succ patience =>
        simp only [waited, other, waitFrom_missed_succ hfound,
          waitFrom_missed_succ (hlists.trans hfound), hhere, hinQuery, hinPause,
          waitFrom_congr _ _ _ _ hlater]
        exact ⟨rfl, rfl, rfl⟩

/-- **How waiting for topics ends.**

* It succeeds just when every topic is found, each by the first question behind the one that found
  the topic before it, and the flag is up before each of these questions.
* It is cancelled just when the flag is found down before a question while topics are pending:
  those up to the first that has not been found by then are found, and it and those behind it are
  the pending ones.
* The questions that find topics are as many as the topics, and rise.
* Patience that does not run out changes nothing about it.
* An error, whenever it comes, is as good as any answer that leaves the topic out that is looked
  for: nothing but the log can tell them apart. -/
theorem wait_settles (replies : Nat → Reply) (running : Bool) (topics : List String) :
    (Settles replies running topics .ready ↔ FindsAll replies running 0 topics) ∧
      (∀ pending, Settles replies running topics (.cancelled pending) ↔
        CutOff replies running 0 topics pending) ∧
      (∀ front found next, Finds replies 0 front found next →
        found.length = front.length ∧ found.Pairwise (· < ·)) ∧
      (∀ patience,
        (∃ pending, (wait replies patience running topics).outcome = .exhausted pending) ∨
          Settles replies running topics (wait replies patience running topics).outcome) ∧
      ∀ (patience query : Nat) (up : Bool) (topic : String) (rest names : List String),
        let others := Function.update replies query
          ((replies query).answering (names.filter (· ≠ topic)))
        let waited := waitFrom replies patience query up (topic :: rest)
        let other := waitFrom others patience query up (topic :: rest)
        other.outcome = waited.outcome ∧ other.running = waited.running ∧
          other.trace.acts = waited.trace.acts := by
  refine ⟨?_, fun pending => ?_, fun front found next hfinds => ?_, fun patience => ?_,
    fun patience query up topic rest names => ?_⟩
  · rw [settles_iff_waits (by simp)]
    exact waits_ready_iff
  · rw [settles_iff_waits (by simp)]
    exact waits_cancelled_iff
  · exact ⟨hfinds.length_eq, hfinds.bounds.2.2⟩
  · by_cases hexhausted :
        ∃ pending, (wait replies patience running topics).outcome = .exhausted pending
    · exact .inl hexhausted
    · have hne := not_exists.1 hexhausted
      exact .inr ((settles_iff_waits hne).2 (waits_of_outcome hne))
  · exact waitFrom_answering patience query up rest (by simp)

/-- Shutdown during the question that finds a topic leaves that topic found, and an answer that
mentions two topics finds one of them. -/
example :
    let reply : Reply := { answer := .ok ["a", "b"], stopInQuery := true }
    (wait (fun _ => reply) 0 true ["a", "b"]).outcome = .cancelled ["b"] := by
  cbv

end Gate
end OctetRelay
