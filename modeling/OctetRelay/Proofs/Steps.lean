/-
# Runs as sequences of steps

`steps` takes one step after another, whatever the shutdown flag says.  The loop
does the same until the flag is down, so what it does is what `steps` does on the
consume calls that it gets to (`loop_eq_steps_take`), and what every step does is
carried along a run by induction on the calls.

There are two kinds of step.  One on a message settles the fate of the message
(`step_of_message`) and never stops the loop; one on anything else only logs,
counts ends of partition and may stop the loop (`step_of_no_message`).  Both log
nothing but what steps log (`isOfStep_of_mem_steps`).

Source: `run` and `step` of `Pipeline`; `SPEC_FULL.md` 4.4, Consumer-Producer
Loop.
-/

import Mathlib.Tactic.SplitIfs
import OctetRelay.Proofs.Fate

namespace OctetRelay

namespace Delivery

/-- The message that a consume call came back with. -/
def message? : Delivery → Option InboundMessage
  | .message inbound => some inbound
  | .timeout | .partitionEnd _ | .unknownTopic _ | .unknownPartition _ | .failure _ => none

/-- Whether a consume call came back with the end of a partition. -/
def isEnd : Delivery → Bool
  | .partitionEnd _ => true
  | .message _ | .timeout | .unknownTopic _ | .unknownPartition _ | .failure _ => false

/-- Whether a consume call came back with a failure of the consumer. -/
def isFatal : Delivery → Bool
  | .unknownTopic _ | .unknownPartition _ | .failure _ => true
  | .message _ | .timeout | .partitionEnd _ => false

/-- A delivery that has a message is that message. -/
theorem eq_message_of_message? {delivery : Delivery} {inbound : InboundMessage}
    (h : delivery.message? = some inbound) : delivery = .message inbound := by
  cases delivery <;> simp_all [message?]

end Delivery

/-- Whether an event is one that a step of the loop can log. -/
def Event.isOfStep : Event → Bool
  | .waiting _ | .messageRead _ | .decodeFailed _ _ | .encodeFailed _ _ | .produceFailed _
  | .messageProduced _ _ | .partitionEnded _ _ | .allPartitionsEnded _ | .unknownTopic _ _
  | .unknownPartition _ _ | .consumerFailed _ => true
  | _ => false

namespace Pipeline

namespace Plan

/-- Whether a delivery stops the loop: a failure of the consumer does, and so does the last
expected end of a partition, where ends may stop it. -/
def halts (plan : Plan) (counters : Counters) (delivery : Delivery) : Bool :=
  delivery.isFatal ||
    (plan.exitOnEof && delivery.isEnd && decide (plan.partitionCount ≤ counters.recordEnd.ends))

/-- The counters after a delivery that is no message. -/
def countEnd (plan : Plan) (counters : Counters) (delivery : Delivery) : Counters :=
  if plan.exitOnEof && delivery.isEnd then counters.recordEnd else counters

/-- What is logged of a delivery that is no message. -/
def reports (plan : Plan) (counters : Counters) : Delivery → List Event
  | .message _ => []
  | .timeout => [.waiting plan.consumeTimeoutMs]
  | .partitionEnd partition =>
    .partitionEnded plan.inputTopic partition ::
      if plan.halts counters (.partitionEnd partition) then
        [.allPartitionsEnded plan.partitionCount]
      else []
  | .unknownTopic reason => [.unknownTopic reason plan.inputTopic]
  | .unknownPartition reason => [.unknownPartition reason plan.inputTopic]
  | .failure reason => [.consumerFailed reason]

end Plan

variable (codec : Codec) (plan : Plan) (verdicts : Verdicts)

/-- The state in which a step handles what it consumed: the buffer is empty, and a request for
shutdown during the call has been noticed. -/
def State.ready (state : State) (consumption : Consumption) : State :=
  { state with buffer := [], running := state.running && !consumption.stopRequested }

/-- **A step on a message** settles its fate. -/
theorem step_of_message (state : State) {consumption : Consumption} {inbound : InboundMessage}
    (h : consumption.delivery.message? = some inbound) :
    step codec plan verdicts state consumption =
      let fate := fate codec state.isFirst (verdicts state.attempts) inbound
      let settled := fate.settle plan (state.ready consumption) inbound
      { settled with trace := .consumed consumption.delivery :: settled.trace } := by
  have hsettle := handleMessage_eq_settle codec plan verdicts (state.ready consumption) inbound rfl
  simp only [State.ready] at hsettle
  simp only [step, Delivery.eq_message_of_message? h, handle, hsettle, State.ready]

/-- **A step on anything else** logs it, and may count an end of partition or stop the loop. -/
theorem step_of_no_message (state : State) {consumption : Consumption}
    (h : consumption.delivery.message? = none) :
    step codec plan verdicts state consumption =
      let ready := state.ready consumption
      { state :=
          { ready with
            running := ready.running && !plan.halts state.counters consumption.delivery
            counters := plan.countEnd state.counters consumption.delivery }
        trace := .consumed consumption.delivery ::
          (plan.reports state.counters consumption.delivery).map .logged } := by
  rcases consumption with ⟨delivery, stopRequested⟩
  cases delivery with
  | message inbound => simp [Delivery.message?] at h
  | partitionEnd partition =>
    simp only [step, handle, handleEnd, State.ready, Plan.halts, Plan.countEnd, Plan.reports,
      Delivery.isFatal, Delivery.isEnd, Bool.false_or, Bool.and_true, Bool.and_eq_true,
      decide_eq_true_eq]
    split_ifs <;> simp_all
  | timeout | unknownTopic | unknownPartition | failure =>
    simp [step, handle, State.ready, Plan.halts, Plan.countEnd, Plan.reports, Delivery.isFatal,
      Delivery.isEnd]

/-- Steps through consume calls, whether or not shutdown has been requested. -/
def steps (state : State) : List Consumption → Stepped
  | [] => { state, trace := [] }
  | consumption :: rest =>
    let first := step codec plan verdicts state consumption
    let others := steps first.state rest
    { others with trace := first.trace ++ others.trace }

/-- **The loop takes steps** through the consume calls that it gets to. -/
theorem loop_eq_steps_take (state : State) (consumptions : List Consumption) :
    ∃ calls, loop codec plan verdicts state consumptions =
      steps codec plan verdicts state (consumptions.take calls) := by
  induction consumptions generalizing state with
  | nil => exact ⟨0, rfl⟩
  | cons consumption rest ih =>
    by_cases hrunning : state.running
    · obtain ⟨calls, hcalls⟩ := ih (step codec plan verdicts state consumption).state
      exact ⟨calls + 1, by simp only [loop, if_pos hrunning, hcalls, List.take_succ_cons, steps]⟩
    · exact ⟨0, by simp only [loop, if_neg hrunning, List.take_zero, steps]⟩

/-- A step consumes one delivery. -/
theorem deliveries_step (state : State) (consumption : Consumption) :
    (step codec plan verdicts state consumption).trace.deliveries = [consumption.delivery] := by
  cases hmessage : consumption.delivery.message? with
  | none =>
    rw [step_of_no_message codec plan verdicts state hmessage]
    exact congrArg (consumption.delivery :: ·) (Trace.deliveries_map_logged _)
  | some inbound =>
    rw [step_of_message codec plan verdicts state hmessage]
    cases fate codec state.isFirst (verdicts state.attempts) inbound <;> rfl

/-- Steps consume what the calls come back with, in order. -/
theorem deliveries_steps (state : State) (consumptions : List Consumption) :
    (steps codec plan verdicts state consumptions).trace.deliveries =
      consumptions.map (·.delivery) := by
  induction consumptions generalizing state with
  | nil => rfl
  | cons consumption rest ih =>
    simp only [steps, Trace.deliveries_append, deliveries_step, ih, List.map_cons,
      List.singleton_append]

/-- What is logged of a delivery that is no message is of a step. -/
theorem Plan.isOfStep_of_mem_reports {plan : Plan} {counters : Counters} {delivery : Delivery}
    {event : Event} (h : event ∈ plan.reports counters delivery) : event.isOfStep = true := by
  cases delivery with
  | message => cases h
  | partitionEnd partition =>
    rcases List.mem_cons.1 h with rfl | h
    · rfl
    · split at h
      · obtain rfl := List.mem_singleton.1 h
        rfl
      · cases h
  | timeout | unknownTopic | unknownPartition | failure =>
    obtain rfl := List.mem_singleton.1 h
    rfl

/-- So is what is logged of a message. -/
theorem Fate.isOfStep_of_mem_effects {isFirst : Bool} {inbound : InboundMessage} {fate : Fate}
    {event : Event} (h : event ∈ (fate.effects plan isFirst inbound).events) :
    event.isOfStep = true := by
  cases fate with
  | empty => cases h
  | undecodable | unencodable | refused | sent =>
    obtain rfl := List.mem_singleton.1 h
    rfl

/-- **A step logs** what became of one delivery, and nothing else. -/
theorem isOfStep_of_mem_step {state : State} {consumption : Consumption} {event : Event}
    (h : event ∈ (step codec plan verdicts state consumption).trace.events) :
    event.isOfStep = true := by
  cases hmessage : consumption.delivery.message? with
  | none =>
    rw [step_of_no_message codec plan verdicts state hmessage] at h
    change event ∈ Trace.events (List.map .logged _) at h
    rw [Trace.events_map_logged] at h
    exact Plan.isOfStep_of_mem_reports h
  | some inbound =>
    rw [step_of_message codec plan verdicts state hmessage] at h
    rcases List.mem_cons.1 h with rfl | h
    · rfl
    · exact Fate.isOfStep_of_mem_effects plan h

/-- Steps log what became of their deliveries. -/
theorem isOfStep_of_mem_steps {state : State} {consumptions : List Consumption} {event : Event}
    (h : event ∈ (steps codec plan verdicts state consumptions).trace.events) :
    event.isOfStep = true := by
  induction consumptions generalizing state with
  | nil => cases h
  | cons consumption rest ih =>
    rw [steps, Trace.events_append, List.mem_append] at h
    exact h.elim (isOfStep_of_mem_step codec plan verdicts) ih

/-- The loop logs what became of its deliveries. -/
theorem isOfStep_of_mem_loop {state : State} {consumptions : List Consumption} {event : Event}
    (h : event ∈ (loop codec plan verdicts state consumptions).trace.events) :
    event.isOfStep = true := by
  obtain ⟨calls, hloop⟩ := loop_eq_steps_take codec plan verdicts state consumptions
  rw [hloop] at h
  exact isOfStep_of_mem_steps codec plan verdicts h

/-- Around its loop a run only logs. -/
theorem calls_run (state : State) (consumptions : List Consumption) :
    (run codec plan verdicts state consumptions).trace.calls =
      (loop codec plan verdicts state consumptions).trace.calls := by
  simp only [run, List.cons_append, Trace.calls_logged_cons, Trace.calls_append]
  split <;> exact List.append_nil _

/-- Around its loop a run consumes nothing. -/
theorem deliveries_run (state : State) (consumptions : List Consumption) :
    (run codec plan verdicts state consumptions).trace.deliveries =
      (loop codec plan verdicts state consumptions).trace.deliveries := by
  simp only [run, List.cons_append, Trace.deliveries_logged_cons, Trace.deliveries_append]
  split <;> exact List.append_nil _

end Pipeline
end OctetRelay
