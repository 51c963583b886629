/-
# What waiting costs, and how soon it ends

The course of a wait that returns is seen in its trace.  Cut before any question,
the trace tells the whole turn that follows:

* the flag is up (`flagBehind_of_queried`),
* the question looks for the first topic that earlier questions have not found, as
  many of them as were followed by no pause, and
* no pause follows it if it finds its topic, and just one if it does not
  (`turn_of_queried`).

Cut behind the effect that takes the flag down, the rest of the trace lies in the
last turn (`back_of_down`): it asks nothing, and with the pause in which shutdown
was requested, if it was in one, it has at most one pause.

Source: `wait_for`; `SPEC_FULL.md` 4.1, the signal is polled once per round
trip, and 4.2.
-/

import OctetRelay.Proofs.Turns
import OctetRelay.Script

namespace OctetRelay
namespace Gate

/-- Whether the flag is up behind some effects, before which so many questions were asked.  It goes
down with a request during a question or in a pause. -/
def flagBehind (replies : Nat → Reply) : Nat → Bool → Trace → Bool
  | _, up, [] => up
  | asked, up, .queried :: rest =>
    flagBehind replies (asked + 1) (up && !(replies asked).stopInQuery) rest
  | asked, up, .paused :: rest =>
    flagBehind replies asked (up && !(replies (asked - 1)).stopInPause) rest
  | asked, up, _ :: rest => flagBehind replies asked up rest

section Flag

variable {replies : Nat → Reply}

/-- Behind a joined trace the flag is what its second part leaves of it. -/
theorem flagBehind_append (asked : Nat) (up : Bool) (front back : Trace) :
    flagBehind replies asked up (front ++ back) =
      flagBehind replies (asked + front.queries) (flagBehind replies asked up front) back := by
  induction front generalizing asked up with
  | nil => rfl
  | cons effect rest ih =>
    cases effect with
    | queried =>
      have hasked : asked + Trace.queries (.queried :: rest) = asked + 1 + Trace.queries rest := by
        simp [Trace.queries]
        omega
      rw [List.cons_append, flagBehind, flagBehind, ih, hasked]
    | paused =>
      have hasked : Trace.queries (.paused :: rest) = Trace.queries rest := rfl
      rw [List.cons_append, flagBehind, flagBehind, ih, hasked]
    | subscribed | consumed | offered | closed | flushed | logged => exact ih asked up

/-- A flag that is down stays down. -/
theorem flagBehind_false (asked : Nat) (trace : Trace) :
    flagBehind replies asked false trace = false := by
  induction trace generalizing asked with
  | nil => rfl
  | cons effect rest ih => cases effect <;> exact ih _

/-- A flag that is up was up before. -/
theorem flagBehind_of_append {asked : Nat} {up : Bool} {front back : Trace}
    (h : flagBehind replies asked up (front ++ back) = true) :
    flagBehind replies asked up front = true := by
  rw [flagBehind_append] at h
  by_contra hdown
  rw [eq_false_of_ne_true hdown, flagBehind_false] at h
  exact Bool.false_ne_true h

end Flag

variable {replies : Nat → Reply} {running : Bool} {topics : List String}

/-- A turn takes the flag from one look to the next. -/
theorem flagBehind_turn {look : Look} (h : look.missing ≠ []) (query : Nat) :
    flagBehind replies query look.up (look.turn (replies query)) =
      (look.next (replies query)).up := by
  obtain ⟨topic, rest, htopics⟩ := List.exists_cons_of_ne_nil h
  cases hlists : (replies query).lists topic with
  | true =>
    rw [Look.turn_listed htopics hlists, Look.next_listed htopics hlists]
    rfl
  | false =>
    rw [Look.turn_missed htopics hlists, Look.next_missed htopics hlists, ← Bool.and_assoc]
    rfl

/-- **The flag behind some turns is the one of the next look.** -/
theorem flagBehind_turns {count : Nat}
    (h : ∀ query, query < count → (look replies running topics query).missing ≠ []) :
    flagBehind replies 0 running (turns replies running topics 0 count) =
      (look replies running topics count).up := by
  induction count with
  | zero => rfl
  | succ count ih =>
    have hbefore (query : Nat) (hlt : query < count) := h query (Nat.lt_succ_of_lt hlt)
    have hqueries : (turns replies running topics 0 count).queries = count :=
      (turns_counts hbefore).1
    rw [turns_succ, flagBehind_append, ih hbefore, hqueries, Nat.zero_add,
      flagBehind_turn (h count (Nat.lt_succ_self count)), look]

/-- A turn begins with its question, and asks no other. -/
theorem Look.turn_eq_cons {look : Look} (h : look.missing ≠ []) (reply : Reply) :
    ∃ rest, look.turn reply = .queried :: rest ∧ .queried ∉ rest ∧ Trace.pauses rest ≤ 1 := by
  obtain ⟨topic, others, htopics⟩ := List.exists_cons_of_ne_nil h
  cases hlists : reply.lists topic with
  | true => exact ⟨_, turn_listed htopics hlists, by simp, Nat.zero_le 1⟩
  | false => exact ⟨_, turn_missed htopics hlists, by simp, Nat.le_refl 1⟩

/-- What follows an effect of a turn holds no question, and the question comes before all others. -/
theorem Look.not_mem_of_turn {look : Look} (h : look.missing ≠ []) {reply : Reply}
    {before after : Trace} {effect : Effect} (hturn : look.turn reply = before ++ effect :: after) :
    .queried ∉ after ∧ Trace.pauses (effect :: after) ≤ 1 ∧ (effect = .queried → before = []) := by
  obtain ⟨rest, hrest, hnone, hpauses⟩ := look.turn_eq_cons h reply
  rw [hrest] at hturn
  cases before with
  | nil =>
    obtain ⟨rfl, rfl⟩ := List.cons.inj hturn
    exact ⟨hnone, hpauses, fun _ => rfl⟩
  | cons first others =>
    rw [List.cons_append] at hturn
    obtain ⟨-, rfl⟩ := List.cons.inj hturn
    have hafter : .queried ∉ effect :: after := fun hmem => hnone (List.mem_append_right _ hmem)
    refine ⟨fun hmem => hafter (List.mem_cons_of_mem _ hmem), ?_, fun heq => ?_⟩
    · rw [Trace.pauses_append] at hpauses
      omega
    · exact absurd (heq ▸ List.mem_cons_self) hafter

/-- **An effect of some turns is an effect of one of them**: others come before it, and others
follow. -/
theorem turns_eq_append {count : Nat} {front back : Trace} {effect : Effect}
    (h : turns replies running topics 0 count = front ++ effect :: back) :
    ∃ query rest before after, count = query + 1 + rest ∧
      (look replies running topics query).turn (replies query) = before ++ effect :: after ∧
      front = turns replies running topics 0 query ++ before ∧
      back = after ++ turns replies running topics (query + 1) rest := by
  induction count generalizing back with
  | zero =>
    have hlength := congrArg List.length h
    simp [turns] at hlength
  | succ count ih =>
    rw [turns_succ, Nat.zero_add] at h
    rcases List.append_eq_append_iff.1 h with ⟨before, hfront, hturn⟩ | ⟨between, hfront, hback⟩
    · exact ⟨count, 0, before, back, rfl, hturn, hfront, (List.append_nil back).symm⟩
    · cases between with
      | nil =>
        rw [List.append_nil] at hfront
        rw [List.nil_append] at hback
        exact ⟨count, 0, [], back, rfl, hback.symm, by rw [hfront, List.append_nil],
          (List.append_nil back).symm⟩
      | cons first others =>
        rw [List.cons_append] at hback
        obtain ⟨rfl, rfl⟩ := List.cons.inj hback
        obtain ⟨query, rest, before, after, rfl, hturn, hbefore, hafter⟩ := ih hfront
        refine ⟨query, rest + 1, before, after, by omega, hturn, hbefore, ?_⟩
        rw [turns_succ, ← List.append_assoc, ← hafter]

section Course

variable {waited : Waited} {count : Nat}

/-- The topics missing at a look are the last ones, and those before them were found by as many
turns as have no pause. -/
theorem missing_eq_drop
    (h : ∀ query, query < count → (look replies running topics query).missing ≠ []) :
    (look replies running topics count).missing =
      topics.drop ((turns replies running topics 0 count).queries -
        (turns replies running topics 0 count).pauses) := by
  have hsuffix : (look replies running topics count).missing <:+ topics := missing_suffix count
  obtain ⟨hqueries, hpauses⟩ := turns_counts h
  have hlength : topics.length - (look replies running topics count).missing.length =
      (turns replies running topics 0 count).queries -
        (turns replies running topics 0 count).pauses := by
    have hle := hsuffix.length_le
    omega
  rw [← hlength]
  exact List.suffix_iff_eq_drop.1 hsuffix

/-- Turns begin with a question, if there are any. -/
theorem takeWhile_turns {start count : Nat}
    (h : ∀ query, start ≤ query → query < start + count →
      (look replies running topics query).missing ≠ []) :
    (turns replies running topics start count).takeWhile (· ≠ .queried) = [] := by
  cases count with
  | zero => rfl
  | succ count =>
    obtain ⟨rest, hturn, -, -⟩ :=
      Look.turn_eq_cons (h start (Nat.le_refl start) (by omega)) (replies start)
    rw [turns_cons, hturn, List.cons_append, List.takeWhile_cons]
    simp

/-- **Cut before a question**, a course has had its flag up, and goes on with the rest of the turn
of that question, which is for the first topic that has not been found. -/
theorem Course.turn_of_queried (h : Course replies running topics 0 count waited)
    {front back : Trace} (hsplit : waited.trace = front ++ .queried :: back) :
    flagBehind replies 0 running front = true ∧
      ∃ topic, topics[front.queries - front.pauses]? = some topic ∧
        back.takeWhile (· ≠ .queried) =
          if (replies front.queries).lists topic then [.logged (.topicAvailable topic)]
          else [.logged ((replies front.queries).missEvent topic), .paused] := by
  -- The question stands in one of the turns, and it is the first thing there.
  obtain ⟨query, rest, before, after, rfl, hturn, hfront, hback⟩ :=
    turns_eq_append (h.trace.symm.trans hsplit)
  have hasks : Asks replies running topics query := h.asks query (by omega) (by omega)
  have hmissing (earlier : Nat) (hlt : earlier < query) :
      (look replies running topics earlier).missing ≠ [] := h.missing_ne_nil (by omega)
  obtain ⟨hnone, -, hfirst⟩ := Look.not_mem_of_turn hasks.2 hturn
  obtain rfl := hfirst rfl
  rw [List.append_nil] at hfront
  rw [List.nil_append] at hturn
  have hqueries : front.queries = query := hfront ▸ (turns_counts hmissing).1
  obtain ⟨topic, others, htopics⟩ := List.exists_cons_of_ne_nil hasks.2
  refine ⟨?_, topic, ?_, ?_⟩
  · rw [hfront, flagBehind_turns hmissing]
    exact hasks.1
  · rw [missing_eq_drop hmissing, ← hfront] at htopics
    rw [← List.head?_drop, htopics, List.head?_cons]
  · have hlater : (turns replies running topics (query + 1) rest).takeWhile (· ≠ .queried) = [] :=
      takeWhile_turns fun later hle hlt => (h.asks later (by omega) (by omega)).2
    have hrest : back.takeWhile (· ≠ .queried) = after := by
      rw [hback, List.takeWhile_append_of_pos fun effect heffect => ?_, hlater, List.append_nil]
      exact decide_eq_true fun heq => hnone (heq ▸ heffect)
    rw [hrest, hqueries]
    cases hlists : (replies query).lists topic with
    | true =>
      rw [Look.turn_listed htopics hlists] at hturn
      exact (List.cons.inj hturn).2.symm
    | false =>
      rw [Look.turn_missed htopics hlists] at hturn
      exact (List.cons.inj hturn).2.symm

/-- **Cut behind the effect with which the flag goes down**, or behind any later one, a course is in
its last turn. -/
theorem Course.back_of_down (h : Course replies running topics 0 count waited)
    {front back : Trace} {effect : Effect} (hsplit : waited.trace = front ++ effect :: back)
    (hdown : flagBehind replies 0 running (front ++ [effect]) = false) :
    back.queries = 0 ∧ Trace.pauses (effect :: back) ≤ 1 := by
  obtain ⟨query, rest, before, after, rfl, hturn, hfront, hback⟩ :=
    turns_eq_append (h.trace.symm.trans hsplit)
  have hmissing : (look replies running topics query).missing ≠ [] := h.missing_ne_nil (by omega)
  obtain ⟨hnone, hpauses, -⟩ := Look.not_mem_of_turn hmissing hturn
  have hrest : rest = 0 := by
    by_contra hmore
    -- otherwise the flag is still up at the look behind the turn
    have hup :
        flagBehind replies 0 running (turns replies running topics 0 (query + 1)) = true := by
      rw [flagBehind_turns fun earlier hlt => h.missing_ne_nil (by omega)]
      exact (h.asks (query + 1) (Nat.zero_le _) (by omega)).1
    have hsplit' : turns replies running topics 0 (query + 1) = (front ++ [effect]) ++ after := by
      rw [turns_succ, Nat.zero_add, hturn, hfront, List.append_assoc, List.append_assoc,
        List.singleton_append]
    rw [hsplit'] at hup
    exact Bool.false_ne_true (hdown.symm.trans (flagBehind_of_append hup))
  subst hrest
  have hafter : back = after := hback.trans (List.append_nil after)
  rw [hafter]
  exact ⟨List.count_eq_zero.2 hnone, hpauses⟩

/-- **The pauses of a course are its questions less the topics found**, and the pending topics are
the last ones. -/
theorem Course.pauses_add (h : Course replies running topics 0 count waited) :
    waited.outcome.pending <:+ topics ∧
      waited.trace.pauses + (topics.length - waited.outcome.pending.length) =
        waited.trace.queries := by
  have hsuffix : (look replies running topics count).missing <:+ topics := missing_suffix count
  have hle := hsuffix.length_le
  obtain ⟨hqueries, hpauses⟩ := h.counts
  rw [h.pending_eq, hqueries]
  exact ⟨hsuffix, by omega⟩

/-- A course that starts with the flag down does nothing. -/
theorem Course.trace_of_down (h : Course replies false topics 0 count waited) :
    waited.trace = [] := by
  cases count with
  | zero => exact h.trace
  | succ count =>
    have hup : false = true := (h.asks 0 (Nat.le_refl 0) (by omega)).1
    cases hup

end Course

/-- **What waiting costs, and how soon it ends.**

For every wait that returns, whatever the replies are and whenever shutdown is requested:

* Before each of its questions the flag is up.  The question is for the first topic that has not
  been found; no pause follows if it finds it, and just one, before the next question, if it does
  not.
* Behind the effect that takes the flag down there is no question any more, and with that effect
  itself at most one pause.
* With the flag down beforehand nothing is done.
* The pauses, of 1500 milliseconds each, are as many as the questions less the topics found; the
  topics that are pending at the end are the last ones. -/
theorem wait_responds (replies : Nat → Reply) (patience : Nat) (running : Bool)
    (topics : List String)
    (h : ∀ pending, (wait replies patience running topics).outcome ≠ .exhausted pending) :
    let waited := wait replies patience running topics
    let found := topics.length - waited.outcome.pending.length
    (∀ front back : Trace, waited.trace = front ++ .queried :: back →
      flagBehind replies 0 running front = true ∧
        ∃ topic, topics[front.queries - front.pauses]? = some topic ∧
          back.takeWhile (· ≠ .queried) =
            if (replies front.queries).lists topic then [.logged (.topicAvailable topic)]
            else [.logged ((replies front.queries).missEvent topic), .paused]) ∧
      (∀ (front : Trace) (effect : Effect) (back : Trace), waited.trace = front ++ effect :: back →
        flagBehind replies 0 running (front ++ [effect]) = false →
          back.queries = 0 ∧ Trace.pauses (effect :: back) ≤ 1) ∧
      (running = false → waited.trace = []) ∧
      waited.outcome.pending <:+ topics ∧
      waited.trace.pauses + found = waited.trace.queries ∧
      Script.elapsedMs waited = 1500 * (waited.trace.queries - found) := by
  intro waited found
  obtain ⟨count, hcourse⟩ := exists_course h
  obtain ⟨hpending, hpauses⟩ := hcourse.pauses_add
  refine ⟨fun front back => hcourse.turn_of_queried, fun front effect back => hcourse.back_of_down,
    ?_, hpending, hpauses, ?_⟩
  · rintro rfl
    exact hcourse.trace_of_down
  · have helapsed : Script.elapsedMs waited = 1500 * waited.trace.pauses := by
      cases houtcome : waited.outcome with
      | ready => simp only [Script.elapsedMs, houtcome, pauseMs]
      | cancelled pending => simp only [Script.elapsedMs, houtcome, pauseMs]
      | exhausted pending => exact absurd houtcome (h pending)
    rw [helapsed, Nat.sub_eq_of_eq_add hpauses.symm]

/-- The first question fails, the second finds one of two topics, and in the pause behind the third
shutdown is requested: three questions, two pauses, one topic found. -/
theorem wait_responds_in_pause :
    let replies : Nat → Reply
      | 0 => { answer := .error "down" }
      | 1 => { answer := .ok ["b", "a"] }
      | _ => { answer := .ok ["a"], stopInPause := true }
    let waited := wait replies 20 true ["a", "b"]
    waited.outcome = .cancelled ["b"] ∧ waited.trace.queries = 3 ∧
      waited.trace.pauses + 1 = waited.trace.queries ∧
      Script.elapsedMs waited = 1500 * (3 - 1) := by
  intro replies waited
  have hasks (query : Nat) (hlt : query < 3) : Asks replies true ["a", "b"] query := by
    match query, hlt with
    | 0, _ | 1, _ | 2, _ => exact ⟨rfl, nofun⟩
  have hstops : ¬ Asks replies true ["a", "b"] 3 := fun h => Bool.false_ne_true h.1
  have hcourse : Course replies true ["a", "b"] 0 3 waited :=
    course_of_pauses_le hasks hstops (by decide)
  have houtcome : waited.outcome = .cancelled ["b"] := hcourse.outcome
  have hqueries : waited.trace.queries = 3 := by
    rw [hcourse.trace]
    rfl
  have hreturns (pending : List String) : waited.outcome ≠ .exhausted pending := by
    rw [houtcome]
    nofun
  obtain ⟨-, -, -, -, hpauses, helapsed⟩ := wait_responds replies 20 true ["a", "b"] hreturns
  have hfound : ["a", "b"].length - waited.outcome.pending.length = 1 := by
    rw [houtcome]
    rfl
  rw [hfound] at hpauses helapsed
  rw [hqueries] at helapsed
  exact ⟨houtcome, hqueries, hpauses, helapsed⟩

end Gate
end OctetRelay
