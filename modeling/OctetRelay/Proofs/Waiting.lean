/-
# Waiting as long as it takes

A wait is cut short when its patience runs out.  `Waits` tells how a wait ends
that has patience enough, question by question: with no topic left, with
shutdown noticed before a question, or as it goes on after a question that finds
its topic or misses it.

Patience decides nothing else.  A wait that ends before its patience is used up
ends as `Waits` has it (`waits_of_outcome`), and then it ends so with all the
patience beyond some least one (`Waits.settles`).

Whatever becomes of it, a wait only asks, pauses and logs what it finds
(`isOfWait_of_mem_waitFrom`).

Source: `wait_for`; `SPEC_FULL.md` 4.2, Topic Availability Gate.
-/

import OctetRelay.Gate

namespace OctetRelay

/-- The counters that an event sums a run up with. -/
def Event.summary? : Event → Option Counters
  | .summary counters => some counters
  | _ => none

/-- The counters of the summaries that were logged. -/
def Trace.summaries (trace : Trace) : List Counters := trace.events.filterMap Event.summary?

/-- Summaries are logged in both parts of a trace. -/
@[simp] theorem Trace.summaries_append (front back : Trace) :
    summaries (front ++ back) = summaries front ++ summaries back := by
  rw [summaries, events_append, List.filterMap_append]
  rfl

/-- Whether an effect is one that waiting for topics can have. -/
def Effect.isOfWait : Effect → Bool
  | .queried | .paused => true
  | .logged (.topicAvailable _) | .logged (.topicMissing _ _) => true
  | .logged (.metadataFailed _ _) => true
  | _ => false

namespace Gate

variable (replies : Nat → Reply)

/-- How waiting ends with patience enough, the next question being the one of a number. -/
inductive Waits : Nat → Bool → List String → Outcome → Prop where
  /-- No topic is left. -/
  | ready (query : Nat) (running : Bool) : Waits query running [] .ready
  /-- Shutdown is noticed before a question. -/
  | cancelled (query : Nat) (topic : String) (rest : List String) :
    Waits query false (topic :: rest) (.cancelled (topic :: rest))
  /-- A question finds its topic, and the others remain. -/
  | listed {query : Nat} {topic : String} {rest : List String} {outcome : Outcome}
    (hlists : (replies query).lists topic = true)
    (hrest : Waits (query + 1) (!(replies query).stopInQuery) rest outcome) :
    Waits query true (topic :: rest) outcome
  /-- A question misses its topic, and after a pause the topic is asked for again. -/
  | missed {query : Nat} {topic : String} {rest : List String} {outcome : Outcome}
    (hlists : (replies query).lists topic = false)
    (hrest : Waits (query + 1) (!(replies query).stopInQuery && !(replies query).stopInPause)
      (topic :: rest) outcome) :
    Waits query true (topic :: rest) outcome

variable {replies}

/-- A wait for nothing is over. -/
theorem waitFrom_nil (patience query : Nat) (running : Bool) :
    waitFrom replies patience query running [] = { outcome := .ready, running, trace := [] } := by
  rw [waitFrom]

/-- With the flag down a wait is cancelled before its next question. -/
theorem waitFrom_stopped (patience query : Nat) (topic : String) (rest : List String) :
    waitFrom replies patience query false (topic :: rest) =
      { outcome := .cancelled (topic :: rest), running := false, trace := [] } := by
  rw [waitFrom]
  rfl

/-- After a topic that is listed the wait goes on with the next one. -/
theorem waitFrom_listed {query : Nat} {topic : String}
    (h : (replies query).lists topic = true) (patience : Nat) (rest : List String) :
    waitFrom replies patience query true (topic :: rest) =
      (waitFrom replies patience (query + 1) (!(replies query).stopInQuery) rest).after
        [.queried, .logged (.topicAvailable topic)] := by
  rw [waitFrom]
  simp only [if_true, h]

/-- With no patience left a missed topic leaves the wait going on. -/
theorem waitFrom_missed_zero {query : Nat} {topic : String}
    (h : (replies query).lists topic = false) (rest : List String) :
    waitFrom replies 0 query true (topic :: rest) =
      { outcome := .exhausted (topic :: rest)
        running := !(replies query).stopInQuery
        trace := [.queried, .logged ((replies query).missEvent topic)] } := by
  rw [waitFrom]
  simp only [if_true, h, Bool.false_eq_true, if_false]

/-- With patience left the wait pauses after a missed topic and asks again. -/
theorem waitFrom_missed_succ {query : Nat} {topic : String}
    (h : (replies query).lists topic = false) (patience : Nat) (rest : List String) :
    waitFrom replies (patience + 1) query true (topic :: rest) =
      (waitFrom replies patience (query + 1)
        (!(replies query).stopInQuery && !(replies query).stopInPause) (topic :: rest)).after
          [.queried, .logged ((replies query).missEvent topic), .paused] := by
  rw [waitFrom]
  simp only [if_true, h, Bool.false_eq_true, if_false]
  rfl

/-- **Patience enough changes nothing**: beyond some least one, every patience leads to the end
that waiting has. -/
theorem Waits.settles {query : Nat} {running : Bool} {topics : List String} {outcome : Outcome}
    (h : Waits replies query running topics outcome) :
    ∃ least, ∀ patience, least ≤ patience →
      (waitFrom replies patience query running topics).outcome = outcome := by
  induction h with
  | ready query running => exact ⟨0, fun patience _ => by rw [waitFrom_nil]⟩
  | cancelled query topic rest => exact ⟨0, fun patience _ => by rw [waitFrom_stopped]⟩
  | listed hlists _ ih =>
    obtain ⟨least, hleast⟩ := ih
    refine ⟨least, fun patience hpatience => ?_⟩
    rw [waitFrom_listed hlists]
    exact hleast patience hpatience
  | missed hlists _ ih =>
    obtain ⟨least, hleast⟩ := ih
    refine ⟨least + 1, fun patience hpatience => ?_⟩
    obtain ⟨left, rfl⟩ : ∃ left, patience = left + 1 := ⟨patience - 1, by omega⟩
    rw [waitFrom_missed_succ hlists]
    exact hleast left (by omega)

/-- **A wait ends as waiting ends**, unless its patience runs out. -/
theorem waits_of_outcome {patience query : Nat} {running : Bool} {topics : List String}
    (h : ∀ pending, (waitFrom replies patience query running topics).outcome ≠
      .exhausted pending) :
    Waits replies query running topics
      (waitFrom replies patience query running topics).outcome := by
  induction patience, query, running, topics using waitFrom.induct replies with
  | case1 patience query running =>
    rw [waitFrom_nil]
    exact .ready query running
  | case2 patience query topic rest running reply hlists ih =>
    rw [waitFrom_listed hlists] at h ⊢
    exact .listed hlists (ih h)
  | case3 query topic rest reply hlists =>
    rw [waitFrom_missed_zero (eq_false_of_ne_true hlists)] at h
    exact absurd rfl (h (topic :: rest))
  | case4 query topic rest reply running hlists patience ih =>
    have hmissed : (replies query).lists topic = false := eq_false_of_ne_true hlists
    rw [waitFrom_missed_succ hmissed] at h ⊢
    exact .missed hmissed (ih h)
  | case5 patience query running topic rest hrunning =>
    obtain rfl := eq_false_of_ne_true hrunning
    rw [waitFrom_stopped]
    exact .cancelled query topic rest

/-- What is logged of a missed topic is part of a wait. -/
theorem Reply.isOfWait_missEvent (reply : Reply) (topic : String) :
    Effect.isOfWait (.logged (reply.missEvent topic)) = true := by
  unfold missEvent
  split <;> rfl

/-- **A wait only asks, pauses and logs** what it finds and misses. -/
theorem isOfWait_of_mem_waitFrom {patience query : Nat} {running : Bool} {topics : List String}
    {effect : Effect} (h : effect ∈ (waitFrom replies patience query running topics).trace) :
    effect.isOfWait = true := by
  -- The cases of the wait: nothing missing, found, missed at the end, missed, and stopped.
  induction patience, query, running, topics using waitFrom.induct replies with
  | case1 patience query running =>
    rw [waitFrom_nil] at h
    cases h
  | case2 patience query topic rest running reply hlists ih =>
    rw [waitFrom_listed hlists] at h
    simp only [Waited.after, List.cons_append, List.nil_append, List.mem_cons] at h
    rcases h with rfl | rfl | h
    · rfl
    · rfl
    · exact ih h
  | case3 query topic rest reply hlists =>
    rw [waitFrom_missed_zero (eq_false_of_ne_true hlists)] at h
    simp only [List.mem_cons, List.not_mem_nil, or_false] at h
    rcases h with rfl | rfl
    · rfl
    · exact (replies query).isOfWait_missEvent topic
  | case4 query topic rest reply running hlists patience ih =>
    rw [waitFrom_missed_succ (eq_false_of_ne_true hlists)] at h
    simp only [Waited.after, List.cons_append, List.nil_append, List.mem_cons] at h
    rcases h with rfl | rfl | rfl | h
    · rfl
    · exact (replies query).isOfWait_missEvent topic
    · rfl
    · exact ih h
  | case5 patience query running topic rest hrunning =>
    obtain rfl := eq_false_of_ne_true hrunning
    rw [waitFrom_stopped] at h
    cases h

/-- The calls of a wait are its questions. -/
theorem calls_waitFrom (patience query : Nat) (running : Bool) (topics : List String) :
    let trace := (waitFrom replies patience query running topics).trace
    trace.calls = List.replicate trace.queries .queried := by
  intro trace
  have hcall : ∀ effect ∈ trace.calls, effect = .queried := by
    intro effect heffect
    obtain ⟨hmem, hcall⟩ := List.mem_filter.1 heffect
    have hwait := isOfWait_of_mem_waitFrom hmem
    cases effect <;> simp_all [Effect.isOfWait, Effect.isCall]
  have hlength : trace.queries = trace.calls.length := by
    rw [Trace.queries, ← List.count_eq_length.2 fun effect heffect => (hcall effect heffect).symm,
      Trace.calls, List.count_filter rfl]
  rw [hlength]
  exact List.eq_replicate_of_mem hcall

/-- A wait consumes nothing. -/
theorem deliveries_waitFrom (patience query : Nat) (running : Bool) (topics : List String) :
    (waitFrom replies patience query running topics).trace.deliveries = [] := by
  rw [← Trace.deliveries_calls, calls_waitFrom, Trace.deliveries, List.filterMap_replicate]
  rfl

/-- A wait sums nothing up. -/
theorem summaries_waitFrom (patience query : Nat) (running : Bool) (topics : List String) :
    (waitFrom replies patience query running topics).trace.summaries = [] := by
  rw [Trace.summaries, List.filterMap_eq_nil_iff]
  intro event hevent
  obtain ⟨effect, hmem, heffect⟩ := List.mem_filterMap.1 hevent
  have hwait := isOfWait_of_mem_waitFrom hmem
  cases effect with
  | logged logged =>
    obtain rfl := Option.some.inj heffect
    cases logged <;> simp_all [Effect.isOfWait, Event.summary?]
  | queried | paused | subscribed | consumed | offered | closed | flushed => cases heffect

end Gate
end OctetRelay
