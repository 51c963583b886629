/-
# Deliveries that leave no trace

A delivery is idle if nothing arrived, or if its message is empty or does not
decode under the first-block flag that it meets.  An idle delivery is counted
and logged, and beyond that it changes nothing: a step on it leaves a state that
is `Alike` the one before, and alike states answer all later deliveries alike.

So a run does not depend on its idle deliveries.  `run_isolates` compares two
runs, one over all deliveries and one over those that are left when some idle
ones are taken out, and finds that they make the same attempts to produce and
stop at the same delivery.  Which deliveries are idle is a matter of the first
run: its flag says what it could decode.

Source: `step` and `handle_message`; `SPEC_FULL.md` 7, the errors of single
messages.
-/

import OctetRelay.Proofs.Conservation
import OctetRelay.Proofs.Relay
import OctetRelay.Proofs.StopPoint

namespace OctetRelay

/-- A message that an effect hands to the producer, with the reason if it is refused. -/
def Effect.attempt? : Effect → Option (OutboundMessage × Option String)
  | .offered message refusal => some (message, refusal)
  | _ => none

namespace Trace

/-- The attempts to produce, each with the producer's verdict. -/
def attempts (trace : Trace) : List (OutboundMessage × Option String) :=
  trace.filterMap Effect.attempt?

/-- Attempts are made in both parts of a trace. -/
@[simp] theorem attempts_append (front back : Trace) :
    attempts (front ++ back) = attempts front ++ attempts back := List.filterMap_append

/-- The attempts are seen in the calls alone. -/
theorem attempts_calls (trace : Trace) : attempts (calls trace) = attempts trace :=
  filterMap_calls (fun effect h => by
    cases effect with
    | paused | logged => rfl
    | _ => cases h) trace

end Trace

namespace Pipeline

/-- Whether a delivery is idle under a first-block flag. -/
def IsIdle (codec : Codec) (isFirst : Bool) : Delivery → Prop
  | .timeout => True
  | .message inbound => inbound.content = [] ∨ codec.decode inbound.content isFirst = none
  | .partitionEnd _ | .unknownTopic _ | .unknownPartition _ | .failure _ => False

/-- Consume calls during which nobody requests shutdown. -/
def undisturbed (deliveries : List Delivery) : List Consumption :=
  deliveries.map ({ delivery := · })

/-- The deliveries without those that are marked. -/
def unmarked (marked : List (Delivery × Bool)) : List Delivery :=
  (marked.filter (!·.2)).map (·.1)

/-- Consume calls without requests come back with the deliveries they are made of. -/
theorem delivery_undisturbed (deliveries : List Delivery) :
    (undisturbed deliveries).map (·.delivery) = deliveries := by
  rw [undisturbed, List.map_map]
  exact List.map_id _

/-- A last delivery that is not marked is the last one of those that are not. -/
theorem getLast?_unmarked {marked : List (Delivery × Bool)} {last : Delivery}
    (h : marked.getLast? = some (last, false)) : (unmarked marked).getLast? = some last := by
  obtain ⟨front, rfl⟩ := List.getLast?_eq_some_iff.1 h
  rw [unmarked, List.filter_append, List.map_append]
  exact List.getLast?_concat

/-- States that differ in what they received and in their buffers at most. -/
structure Alike (state other : State) : Prop where
  running : other.running = state.running
  isFirst : other.isFirst = state.isFirst
  attempts : other.attempts = state.attempts
  sent : other.counters.sent = state.counters.sent
  ends : other.counters.ends = state.counters.ends

/-- A state is like itself. -/
theorem Alike.refl (state : State) : Alike state state := ⟨rfl, rfl, rfl, rfl, rfl⟩

/-- States are alike in either order. -/
theorem Alike.symm {state other : State} (h : Alike state other) : Alike other state :=
  ⟨h.running.symm, h.isFirst.symm, h.attempts.symm, h.sent.symm, h.ends.symm⟩

/-- States that are like a third one are alike. -/
theorem Alike.trans {state other third : State} (h : Alike state other) (h' : Alike other third) :
    Alike state third :=
  ⟨h'.running.trans h.running, h'.isFirst.trans h.isFirst, h'.attempts.trans h.attempts,
    h'.sent.trans h.sent, h'.ends.trans h.ends⟩

variable {codec : Codec} {plan : Plan} {verdicts : Verdicts}

/-- Whether a delivery stops the loop is decided by the ends counted before it. -/
theorem halts_congr {counters others : Counters} (h : others.ends = counters.ends)
    (delivery : Delivery) : plan.halts others delivery = plan.halts counters delivery := by
  have hrecorded : others.recordEnd.ends = counters.recordEnd.ends := congrArg (· + 1) h
  rw [Plan.halts, Plan.halts, hrecorded]

/-- A step sends what the producer accepts in it. -/
theorem sent_step (state : State) (consumption : Consumption) :
    let stepped := step codec plan verdicts state consumption
    stepped.state.counters.sent = state.counters.sent.recordAll
      (stepped.trace.calls.produced.map (·.payload.length)) := by
  intro stepped
  rw [Trace.produced_calls]
  exact congrArg Counters.sent (counters_step codec plan verdicts state consumption)

/-- **Alike states take alike steps**, with the same calls. -/
theorem Alike.step (codec : Codec) (plan : Plan) (verdicts : Verdicts) {state other : State}
    (h : Alike state other) (consumption : Consumption) :
    let stepped := step codec plan verdicts state consumption
    let follower := step codec plan verdicts other consumption
    Alike stepped.state follower.state ∧ follower.trace.calls = stepped.trace.calls := by
  intro stepped follower
  obtain ⟨hflag, hattempts, hcalls⟩ := step_relays codec plan verdicts state consumption
  obtain ⟨hflag', hattempts', hcalls'⟩ := step_relays codec plan verdicts other consumption
  rw [h.isFirst] at hflag' hattempts' hcalls'
  rw [h.attempts] at hattempts' hcalls'
  have hsame : follower.trace.calls = stepped.trace.calls := hcalls'.trans hcalls.symm
  refine ⟨⟨?_, hflag'.trans hflag.symm, hattempts'.trans hattempts.symm, ?_, ?_⟩, hsame⟩
  · rw [running_step, running_step, h.running, halts_congr h.ends]
  · rw [sent_step, sent_step, h.sent, hsame]
  · rw [ends_step, ends_step, h.ends]

/-- An idle delivery is relayed to nobody and leaves the flag. -/
theorem IsIdle.relay {isFirst : Bool} {delivery : Delivery} (h : IsIdle codec isFirst delivery) :
    relay codec isFirst delivery = { isFirst, payload? := none } := by
  cases delivery with
  | message inbound =>
    rcases h with hempty | hdecode
    · simp only [Pipeline.relay, hempty, if_true]
    · simp only [Pipeline.relay, hdecode, ite_self]
  | timeout => rfl
  | partitionEnd | unknownTopic | unknownPartition | failure => exact h.elim

/-- An idle delivery is no end of partition. -/
theorem IsIdle.isEnd {isFirst : Bool} {delivery : Delivery} (h : IsIdle codec isFirst delivery) :
    delivery.isEnd = false := by
  cases delivery with
  | message | timeout => rfl
  | partitionEnd | unknownTopic | unknownPartition | failure => exact h.elim

/-- An idle delivery is no failure of the consumer. -/
theorem IsIdle.isFatal {isFirst : Bool} {delivery : Delivery} (h : IsIdle codec isFirst delivery) :
    delivery.isFatal = false := by
  cases delivery with
  | message | timeout => rfl
  | partitionEnd | unknownTopic | unknownPartition | failure => exact h.elim

/-- **A step on an idle delivery** leaves an alike state and makes no call but its own. -/
theorem alike_step_of_isIdle (plan : Plan) (verdicts : Verdicts) {state : State}
    {delivery : Delivery} (h : IsIdle codec state.isFirst delivery) :
    let stepped := step codec plan verdicts state { delivery }
    Alike state stepped.state ∧ stepped.trace.calls = [.consumed delivery] := by
  intro stepped
  obtain ⟨hflag, hattempts, hcalls⟩ := step_relays codec plan verdicts state { delivery }
  rw [h.relay] at hflag hattempts hcalls
  have hhalts : plan.halts state.counters delivery = false := by
    rw [Plan.halts, h.isFatal, h.isEnd, Bool.and_false, Bool.false_and, Bool.or_false]
  refine ⟨⟨?_, hflag, hattempts, ?_, ?_⟩, hcalls⟩
  · rw [running_step, hhalts]
    simp
  · rw [sent_step, hcalls]
    rfl
  · rw [ends_step, h.isEnd, Bool.and_false]
    rfl

/-- The loop over no consume call, or with shutdown requested, does nothing. -/
theorem loop_of_not_running {state : State} (h : state.running = false)
    (consumptions : List Consumption) :
    loop codec plan verdicts state consumptions = { state, trace := [] } := by
  cases consumptions with
  | nil => rfl
  | cons consumption rest => simp only [loop, h, Bool.false_eq_true, if_false]

/-- While the flag is up the loop takes a step and goes on. -/
theorem loop_of_running {state : State} (h : state.running = true) (consumption : Consumption)
    (rest : List Consumption) :
    loop codec plan verdicts state (consumption :: rest) =
      let first := step codec plan verdicts state consumption
      let others := loop codec plan verdicts first.state rest
      { others with trace := first.trace ++ others.trace } := by
  simp only [loop, h, if_true]

/-- The flag that the delivery of an index meets when a run steps through deliveries. -/
def flagBefore (codec : Codec) (plan : Plan) (verdicts : Verdicts) (state : State)
    (deliveries : List Delivery) (index : Nat) : Bool :=
  (steps codec plan verdicts state (undisturbed (deliveries.take index))).state.isFirst

/-- Whether every marked delivery is idle when a run steps through all of them. -/
def MarksIdle (codec : Codec) (plan : Plan) (verdicts : Verdicts) (state : State)
    (marked : List (Delivery × Bool)) : Prop :=
  ∀ index delivery, marked[index]? = some (delivery, true) →
    IsIdle codec (flagBefore codec plan verdicts state (marked.map (·.1)) index) delivery

/-- A marked first delivery is idle. -/
theorem MarksIdle.head {state : State} {delivery : Delivery} {rest : List (Delivery × Bool)}
    (h : MarksIdle codec plan verdicts state ((delivery, true) :: rest)) :
    IsIdle codec state.isFirst delivery := h 0 delivery rfl

/-- Behind the first delivery the marks are right for the state that it leaves. -/
theorem MarksIdle.tail {state : State} {delivery : Delivery} {mark : Bool}
    {rest : List (Delivery × Bool)}
    (h : MarksIdle codec plan verdicts state ((delivery, mark) :: rest)) :
    MarksIdle codec plan verdicts (step codec plan verdicts state { delivery }).state rest :=
  fun index other hother => h (index + 1) other hother

/-- What two runs of the loop have in common when the first is over all of some marked deliveries,
from a state, and the second over those that are not marked. -/
structure Isolated (state : State) (marked : List (Delivery × Bool)) (full short : Stepped) :
    Prop where
  alike : Alike full.state short.state
  attempts : short.trace.attempts = full.trace.attempts
  /-- The second run consumes what is unmarked of that which the first one consumes. -/
  deliveries : short.trace.deliveries = unmarked (marked.take full.trace.deliveries.length)
  /-- The delivery that stops the first run is not marked. -/
  last : state.running = true → full.state.running = false →
    ∃ last, (marked.take full.trace.deliveries.length).getLast? = some (last, false)

variable {state other : State} {delivery : Delivery} {rest : List (Delivery × Bool)}
  {others shorter : Stepped}

/-- What a step and the steps after it consume is marked as the deliveries are. -/
theorem take_consumed (entry : Delivery × Bool) (state : State) (consumption : Consumption) :
    (entry :: rest).take (Trace.deliveries
        ((step codec plan verdicts state consumption).trace ++ others.trace)).length =
      entry :: rest.take others.trace.deliveries.length := by
  rw [Trace.deliveries_append, deliveries_step, List.singleton_append, List.length_cons,
    List.take_succ_cons]

/-- The first run may step on an idle delivery ahead of the second. -/
theorem Isolated.of_idle (hrunning : state.running = true)
    (hidle : IsIdle codec state.isFirst delivery)
    (h : Isolated (step codec plan verdicts state { delivery }).state rest others shorter) :
    Isolated state ((delivery, true) :: rest)
      { others with trace := (step codec plan verdicts state { delivery }).trace ++ others.trace }
      shorter := by
  obtain ⟨hstep, hcalls⟩ := alike_step_of_isIdle plan verdicts hidle
  have hnone : (step codec plan verdicts state { delivery }).trace.attempts = [] := by
    rw [← Trace.attempts_calls, hcalls]
    rfl
  refine ⟨h.alike, ?_, ?_, fun _ hdown => ?_⟩
  · rw [Trace.attempts_append, hnone]
    exact h.attempts
  · rw [take_consumed]
    exact h.deliveries
  · obtain ⟨last, hlast⟩ := h.last (hstep.running.trans hrunning) hdown
    exact ⟨last, by rw [take_consumed, List.getLast?_cons, hlast, Option.getD_some]⟩

/-- Both runs may step on a delivery that is not marked. -/
theorem Isolated.of_step (halike : Alike state other)
    (hothers : (step codec plan verdicts state { delivery }).state.running = false →
      others.trace = [])
    (h : Isolated (step codec plan verdicts state { delivery }).state rest others shorter) :
    Isolated state ((delivery, false) :: rest)
      { others with trace := (step codec plan verdicts state { delivery }).trace ++ others.trace }
      { shorter with
        trace := (step codec plan verdicts other { delivery }).trace ++ shorter.trace } := by
  obtain ⟨-, hcalls⟩ := halike.step codec plan verdicts { delivery }
  refine ⟨h.alike, ?_, ?_, fun _ hdown => ?_⟩
  · rw [Trace.attempts_append, Trace.attempts_append, h.attempts,
      ← Trace.attempts_calls (step codec plan verdicts other _).trace, hcalls, Trace.attempts_calls]
  · rw [take_consumed, Trace.deliveries_append, deliveries_step, h.deliveries]
    rfl
  · cases hstopped : (step codec plan verdicts state { delivery }).state.running with
    | true =>
      obtain ⟨last, hlast⟩ := h.last hstopped hdown
      exact ⟨last, by rw [take_consumed, List.getLast?_cons, hlast, Option.getD_some]⟩
    | false => exact ⟨delivery, by rw [take_consumed, hothers hstopped]; rfl⟩

/-- **The loop does not depend on idle deliveries.** -/
theorem loop_isolates {marked : List (Delivery × Bool)} (halike : Alike state other)
    (hidle : MarksIdle codec plan verdicts state marked) :
    Isolated state marked
      (loop codec plan verdicts state (undisturbed (marked.map (·.1))))
      (loop codec plan verdicts other (undisturbed (unmarked marked))) := by
  induction marked generalizing state other with
  | nil => exact ⟨halike, rfl, rfl, fun hup hdown => absurd (hup.symm.trans hdown) (by decide)⟩
  | cons entry rest ih =>
    obtain ⟨delivery, mark⟩ := entry
    cases hrunning : state.running with
    | false =>
      rw [loop_of_not_running hrunning, loop_of_not_running (halike.running.trans hrunning)]
      exact ⟨halike, rfl, rfl, fun hup => absurd (hrunning.symm.trans hup) (by decide)⟩
    | true =>
      have hfull : loop codec plan verdicts state (undisturbed (((delivery, mark) :: rest).map
          (·.1))) = _ := loop_of_running hrunning { delivery } (undisturbed (rest.map (·.1)))
      rw [hfull]
      cases mark with
      | true =>
        obtain ⟨hstep, -⟩ := alike_step_of_isIdle plan verdicts hidle.head
        exact .of_idle hrunning hidle.head (ih (hstep.symm.trans halike) hidle.tail)
      | false =>
        have hshort : loop codec plan verdicts other (undisturbed (unmarked ((delivery, false) ::
            rest))) = _ := loop_of_running (halike.running.trans hrunning) { delivery }
              (undisturbed (unmarked rest))
        rw [hshort]
        refine .of_step halike (fun hstopped => ?_)
          (ih (halike.step codec plan verdicts { delivery }).1 hidle.tail)
        rw [loop_of_not_running hstopped]

/-- Around its loop a run attempts nothing. -/
theorem attempts_run (state : State) (consumptions : List Consumption) :
    (run codec plan verdicts state consumptions).trace.attempts =
      (loop codec plan verdicts state consumptions).trace.attempts := by
  rw [← Trace.attempts_calls, calls_run, Trace.attempts_calls]

/-- **A run does not depend on its idle deliveries.**  Take any of the deliveries out that are idle
in a run: those for which nothing arrived, and those whose message is empty or does not decode under
the flag that the run has got to.  The run over what is left

* attempts the same messages, octet for octet and in the same order, with the same verdicts;
* ends with the same tally of sent messages, count of ends, first-block flag and shutdown flag;
* returns just when the first run does;
* consumes what is left of the deliveries that the first run consumes.

And a delivery that stops the first run is never idle: it is left, and stops the second run too. -/
theorem run_isolates (codec : Codec) (plan : Plan) (verdicts : Verdicts) (running : Bool)
    (marked : List (Delivery × Bool))
    (hidle : MarksIdle codec plan verdicts { running } marked) :
    let full := run codec plan verdicts { running } (undisturbed (marked.map (·.1)))
    let short := run codec plan verdicts { running } (undisturbed (unmarked marked))
    let consumed := marked.take full.trace.deliveries.length
    short.trace.attempts = full.trace.attempts ∧
      short.state.counters.sent = full.state.counters.sent ∧
      short.state.counters.ends = full.state.counters.ends ∧
      short.state.isFirst = full.state.isFirst ∧
      short.state.running = full.state.running ∧
      (short.HasReturned ↔ full.HasReturned) ∧
      full.trace.deliveries = consumed.map (·.1) ∧
      short.trace.deliveries = unmarked consumed ∧
      (running = true → full.HasReturned → ∃ last, consumed.getLast? = some (last, false) ∧
        short.trace.deliveries.getLast? = some last) := by
  intro full short consumed
  obtain ⟨halike, hattempts, hdeliveries, hlast⟩ := loop_isolates (Alike.refl _) hidle
  have hshort : short.trace.deliveries = unmarked consumed := by
    simp only [short, consumed, full, deliveries_run]
    exact hdeliveries
  refine ⟨?_, halike.sent, halike.ends, halike.isFirst, halike.running, ?_, ?_, hshort,
    fun hup hreturned => ?_⟩
  · simp only [short, full, attempts_run]
    exact hattempts
  · rw [hasReturned_run, hasReturned_run, halike.running]
  · have hprefix : full.trace.deliveries <+: marked.map (·.1) := by
      have hloop := (loop_relays codec plan verdicts { running }
        (undisturbed (marked.map (·.1)))).1
      rwa [delivery_undisturbed, ← deliveries_run] at hloop
    rw [List.map_take]
    exact List.prefix_iff_eq_take.1 hprefix
  · rw [hasReturned_run] at hreturned
    obtain ⟨last, hlast⟩ := hlast hup hreturned
    rw [← deliveries_run] at hlast
    exact ⟨last, hlast, hshort ▸ getLast?_unmarked hlast⟩

/-- A payload of one octet does not decode as a first block, and does later on.  A run does not
depend on the former, nor on a timeout or a message without payload. -/
theorem run_isolates_short_first_block :
    let codec : Codec :=
      { Decoded := Octets
        decode := fun payload isFirst =>
          if isFirst && payload.length < 2 then none else some payload
        encode := fun value buffer => { buffer := buffer ++ value } }
    let plan : Plan :=
      { inputTopic := "in", outputTopic := "out", partition := none, consumeTimeoutMs := 500,
        exitOnEof := true, partitionCount := 1 }
    let single : Delivery := .message { topic := "in", payload := some [7] }
    let double : Delivery := .message { topic := "in", payload := some [1, 2] }
    let absent : Delivery := .message { topic := "in", payload := none }
    let marked : List (Delivery × Bool) :=
      [(single, true), (.timeout, true), (double, false), (absent, true), (single, false),
        (.partitionEnd 0, false), (.timeout, false)]
    let full := run codec plan (fun _ => none) {} (undisturbed (marked.map (·.1)))
    let short := run codec plan (fun _ => none) {}
      (undisturbed [double, single, .partitionEnd 0, .timeout])
    MarksIdle codec plan (fun _ => none) {} marked ∧
      short.trace.attempts = full.trace.attempts ∧
      short.trace.attempts = [(plan.outbound [1, 2], none), (plan.outbound [7], none)] ∧
      short.trace.deliveries.getLast? = some (.partitionEnd 0) := by
  intro codec plan single double absent marked full short
  have hidle : MarksIdle codec plan (fun _ => none) {} marked := by
    intro index delivery hmark
    match index, hmark with
    | 0, rfl => exact .inr rfl
    | 1, rfl => trivial
    | 3, rfl => exact .inl rfl
    | _ + 7, hmark => cases hmark
  have hreturned : full.HasReturned := (hasReturned_run ..).2 rfl
  obtain ⟨hattempts, -, -, -, -, -, -, -, hlast⟩ :=
    run_isolates codec plan (fun _ => none) true marked hidle
  obtain ⟨last, hmarked, hlast⟩ := hlast rfl hreturned
  have hend : last = .partitionEnd 0 := (congrArg Prod.fst (Option.some.inj hmarked)).symm
  exact ⟨hidle, hattempts, rfl, hend ▸ hlast⟩

end Pipeline
end OctetRelay
