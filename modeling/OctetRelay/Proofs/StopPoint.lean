/-
# Where a run stops

A consume call can give cause to stop in three ways: somebody requests shutdown
during it, the consumer fails in it, or it brings the last expected end of a
partition.  `StopsAt` says so of a call by its index, and a run returns after the
first such call or, if shutdown was requested beforehand, after none
(`ReturnsAfter`).

The loop itself compares a counter of 32 bits with the number of ends expected.
What carries the induction is `EndsCounted`: up to the stop the counter is the
number of ends seen and stays below the number expected, so it cannot wrap.

Source: `run` of `Pipeline`; `SPEC_FULL.md` 4.4, termination, and 8.
-/

import OctetRelay.Proofs.Steps

namespace OctetRelay
namespace Pipeline

/-- The number of ends of partition after which a run stops; one at least has to be seen. -/
def Plan.expectedEnds (plan : Plan) : Nat := max plan.partitionCount.toNat 1

/-- Whether the consume call of an index, counted from zero, gives cause to stop when so many ends
of partition were seen before the first of the calls. -/
def StopsAt (plan : Plan) (ends : Nat) (consumptions : List Consumption) (index : Nat) : Prop :=
  ∃ consumption, consumptions[index]? = some consumption ∧
    (consumption.stopRequested = true ∨ consumption.delivery.isFatal = true ∨
      plan.exitOnEof = true ∧ consumption.delivery.isEnd = true ∧
        ends + (consumptions.take (index + 1)).countP (·.delivery.isEnd) = plan.expectedEnds)

/-- Whether a run returns after so many consume calls: none if shutdown was requested beforehand,
and otherwise as many as it takes to reach the first one that gives cause to stop. -/
def ReturnsAfter (plan : Plan) (running : Bool) (consumptions : List Consumption) (calls : Nat) :
    Prop :=
  if running then
    ∃ last, calls = last + 1 ∧ StopsAt plan 0 consumptions last ∧
      ∀ index < last, ¬ StopsAt plan 0 consumptions index
  else calls = 0

/-- Whether a run has returned: it says so as the last thing it does. -/
def Stepped.HasReturned (ran : Stepped) : Prop := .loopStopped ∈ ran.trace.events

/-- The counter of ends says how many were seen, and fewer were seen than are expected. -/
def EndsCounted (plan : Plan) (ends : Nat) (counters : Counters) : Prop :=
  plan.exitOnEof = true → counters.ends.toNat = ends ∧ ends < plan.expectedEnds

/-- **All that a message's step does with it**: the message is counted with the octets of its
payload, and a payload that is not empty is decoded, encoded into an empty buffer and offered to the
producer, or logged as far as it does not decode. -/
structure HandlesInFull (codec : Codec) (plan : Plan) (verdicts : Verdicts) (state : State)
    (inbound : InboundMessage) (stepped : Stepped) : Prop where
  count : stepped.state.counters.received.count = state.counters.received.count + 1
  bytes : stepped.state.counters.received.bytes =
    state.counters.received.bytes + .ofNat (inbound.payload.getD []).length
  not_decoded : inbound.payload.getD [] ≠ [] →
    codec.decode (inbound.payload.getD []) state.isFirst = none →
      .logged (.decodeFailed inbound state.isFirst) ∈ stepped.trace
  decoded : ∀ value, inbound.payload.getD [] ≠ [] →
    codec.decode (inbound.payload.getD []) state.isFirst = some value →
      stepped.state.isFirst = false ∧
        ∀ encoded ≠ [], codec.encode value [] = { buffer := encoded } →
          .offered { topic := plan.outputTopic, partition := plan.partition, payload := encoded }
            (verdicts state.attempts) ∈ stepped.trace

/-- The first of the calls gives cause to stop by what it brings itself. -/
theorem stopsAt_zero {plan : Plan} {ends : Nat} {consumption : Consumption}
    {rest : List Consumption} :
    StopsAt plan ends (consumption :: rest) 0 ↔
      consumption.stopRequested = true ∨ consumption.delivery.isFatal = true ∨
        plan.exitOnEof = true ∧ consumption.delivery.isEnd = true ∧
          ends + 1 = plan.expectedEnds := by
  simp only [StopsAt, List.getElem?_cons_zero, Option.some.injEq, exists_eq_left', Nat.zero_add,
    List.take_succ_cons, List.take_zero, List.countP_singleton]
  refine or_congr_right (or_congr_right (and_congr_right fun _ => and_congr_right fun hend => ?_))
  rw [if_pos hend]

/-- Behind the first call, the ends that it brings count as seen before. -/
theorem stopsAt_succ {plan : Plan} {ends index : Nat} {consumption : Consumption}
    {rest : List Consumption} :
    StopsAt plan ends (consumption :: rest) (index + 1) ↔
      StopsAt plan (ends + consumption.delivery.isEnd.toNat) rest index := by
  have hcount : ends + ((consumption :: rest).take (index + 2)).countP (·.delivery.isEnd) =
      ends + consumption.delivery.isEnd.toNat +
        (rest.take (index + 1)).countP (·.delivery.isEnd) := by
    rw [List.take_succ_cons, List.countP_cons]
    cases consumption.delivery.isEnd with
    | false => rfl
    | true =>
      simp only [if_true, Bool.toNat_true]
      omega
  simp only [StopsAt, List.getElem?_cons_succ, hcount]

variable (codec : Codec) (plan : Plan) (verdicts : Verdicts)

/-- A step leaves the flag up unless shutdown is requested during it or the delivery stops the
loop. -/
theorem running_step (state : State) (consumption : Consumption) :
    (step codec plan verdicts state consumption).state.running =
      (state.running && !consumption.stopRequested &&
        !plan.halts state.counters consumption.delivery) := by
  cases hmessage : consumption.delivery.message? with
  | none => rw [step_of_no_message codec plan verdicts state hmessage]; rfl
  | some inbound =>
    have hhalts : plan.halts state.counters (.message inbound) = false := by
      simp [Plan.halts, Delivery.isFatal, Delivery.isEnd]
    rw [step_of_message codec plan verdicts state hmessage,
      Delivery.eq_message_of_message? hmessage, hhalts]
    exact (Bool.and_true _).symm

/-- A request for shutdown during a call changes nothing about how the call is handled but the
flag. -/
theorem step_requested (state : State) (delivery : Delivery) :
    let asked := step codec plan verdicts state { delivery, stopRequested := true }
    let unasked := step codec plan verdicts state { delivery }
    asked.trace = unasked.trace ∧ asked.state = { unasked.state with running := false } := by
  cases hmessage : delivery.message? with
  | none =>
    rw [step_of_no_message codec plan verdicts state hmessage,
      step_of_no_message codec plan verdicts state hmessage]
    simp [State.ready]
  | some inbound =>
    rw [step_of_message codec plan verdicts state hmessage,
      step_of_message codec plan verdicts state hmessage]
    simp [State.ready, Fate.settle]

/-- **A step handles a message in full**, whether or not shutdown is requested during its call. -/
theorem handlesInFull_step (state : State) (inbound : InboundMessage) (stopRequested : Bool) :
    HandlesInFull codec plan verdicts state inbound
      (step codec plan verdicts state { delivery := .message inbound, stopRequested }) := by
  let fate := fate codec state.isFirst (verdicts state.attempts) inbound
  let settled := fate.settle plan
    { state with buffer := [], running := state.running && !stopRequested } inbound
  have hstepped : step codec plan verdicts state { delivery := .message inbound, stopRequested } =
      { settled with trace := .consumed (.message inbound) :: settled.trace } :=
    step_of_message codec plan verdicts state rfl
  have heffects {effect : Effect} (h : effect ∈ fate.effects plan state.isFirst inbound) :
      effect ∈ .consumed (.message inbound) :: settled.trace :=
    List.mem_cons_of_mem _ (List.mem_cons_of_mem _ h)
  rw [hstepped]
  constructor
  case count => cases hfate : fate <;> simp only [settled, hfate] <;> rfl
  case bytes => cases hfate : fate <;> simp only [settled, hfate] <;> rfl
  case not_decoded =>
    intro hpayload hdecode
    have hfate : fate = .undecodable := fate_of_not_decoded codec _ hpayload hdecode
    refine heffects ?_
    rw [hfate]
    exact List.mem_singleton_self _
  case decoded =>
    intro value hpayload hdecode
    have hfate := fate_of_decoded codec (verdicts state.attempts) hpayload hdecode
    refine ⟨?_, fun encoded hne hencode => heffects ?_⟩
    · have hdecoded : fate.isDecoded = true := by
        simp only [fate, hfate]
        cases codec.write value <;> cases verdicts state.attempts <;> rfl
      simp only [settled, Fate.settle, hdecoded, Bool.not_true, Bool.and_false]
    · simp only [fate, hfate, Codec.write_eq_ok_iff.2 ⟨hencode, hne⟩]
      cases verdicts state.attempts <;> exact List.mem_cons_self

/-- A step counts an end of partition where ends may stop the loop, and only then. -/
theorem ends_step (state : State) (consumption : Consumption) :
    (step codec plan verdicts state consumption).state.counters.ends =
      if plan.exitOnEof && consumption.delivery.isEnd then state.counters.ends + 1
      else state.counters.ends := by
  cases hmessage : consumption.delivery.message? with
  | none =>
    rw [step_of_no_message codec plan verdicts state hmessage]
    simp only [Plan.countEnd]
    split <;> rfl
  | some inbound =>
    rw [step_of_message codec plan verdicts state hmessage,
      Delivery.eq_message_of_message? hmessage]
    cases fate codec state.isFirst (verdicts state.attempts) inbound <;>
      simp [Fate.settle, Fate.count, Fate.sent?, State.ready, Counters.recordReceived,
        Counters.recordSent, Delivery.isEnd]

/-- While the counter of ends is right, a delivery stops the loop as the count of ends has it. -/
theorem halts_iff {ends : Nat} {counters : Counters} (hcounted : EndsCounted plan ends counters)
    (delivery : Delivery) :
    plan.halts counters delivery = true ↔
      delivery.isFatal = true ∨
        plan.exitOnEof = true ∧ delivery.isEnd = true ∧ ends + 1 = plan.expectedEnds := by
  simp only [Plan.halts, Bool.or_eq_true, Bool.and_eq_true, decide_eq_true_eq, and_assoc]
  refine or_congr_right (and_congr_right fun hexit => and_congr_right fun _ => ?_)
  obtain ⟨hends, hlt⟩ := hcounted hexit
  have hbound := plan.partitionCount.toNat_lt
  rw [Plan.expectedEnds] at hlt ⊢
  rw [UInt32.le_iff_toNat_le, Counters.recordEnd, UInt32.toNat_add, hends]
  simp only [UInt32.reduceToNat]
  omega

/-- A call that gives no cause to stop leaves the flag up and the counter of ends right. -/
theorem step_of_not_stopsAt {ends : Nat} {state : State} {consumption : Consumption}
    {rest : List Consumption} (hrunning : state.running = true)
    (hcounted : EndsCounted plan ends state.counters)
    (hstop : ¬ StopsAt plan ends (consumption :: rest) 0) :
    let stepped := step codec plan verdicts state consumption
    stepped.state.running = true ∧
      EndsCounted plan (ends + consumption.delivery.isEnd.toNat) stepped.state.counters := by
  rw [stopsAt_zero, not_or, Bool.not_eq_true, ← halts_iff plan hcounted, Bool.not_eq_true] at hstop
  obtain ⟨hrequest, hhalts⟩ := hstop
  refine ⟨?_, fun hexit => ?_⟩
  · rw [running_step, hrunning, hrequest, hhalts]
    rfl
  · obtain ⟨hends, hlt⟩ := hcounted hexit
    rw [ends_step, hexit, Bool.true_and]
    cases hend : consumption.delivery.isEnd with
    | false => exact ⟨hends, hlt⟩
    | true =>
      have hnotLast : ends + 1 ≠ plan.expectedEnds := fun hlast =>
        Bool.false_ne_true (hhalts ▸
          (halts_iff plan hcounted consumption.delivery).2 (.inr ⟨hexit, hend, hlast⟩))
      have hbound := plan.partitionCount.toNat_lt
      rw [Plan.expectedEnds] at hlt hnotLast ⊢
      simp only [if_true, UInt32.toNat_add, hends, UInt32.reduceToNat, Bool.toNat_true]
      omega

/-- A call that gives cause to stop takes the flag down. -/
theorem step_of_stopsAt {ends : Nat} {state : State} {consumption : Consumption}
    {rest : List Consumption} (hcounted : EndsCounted plan ends state.counters)
    (hstop : StopsAt plan ends (consumption :: rest) 0) :
    (step codec plan verdicts state consumption).state.running = false := by
  rw [stopsAt_zero, ← halts_iff plan hcounted] at hstop
  rw [running_step]
  rcases hstop with hrequest | hhalts
  · rw [hrequest, Bool.not_true, Bool.and_false, Bool.false_and]
  · rw [hhalts, Bool.not_true, Bool.and_false]

/-- **The loop takes steps up to the first call that gives cause to stop**, that call included; with
no such call it takes them all and is still running. -/
theorem loop_stops {ends : Nat} {state : State} (hrunning : state.running = true)
    (hcounted : EndsCounted plan ends state.counters) (consumptions : List Consumption) :
    let looped := loop codec plan verdicts state consumptions
    (∃ last, StopsAt plan ends consumptions last ∧
        (∀ index < last, ¬ StopsAt plan ends consumptions index) ∧
        looped = steps codec plan verdicts state (consumptions.take (last + 1)) ∧
        looped.state.running = false) ∨
      (∀ index, ¬ StopsAt plan ends consumptions index) ∧
        looped = steps codec plan verdicts state consumptions ∧ looped.state.running = true := by
  induction consumptions generalizing ends state with
  | nil => exact .inr ⟨fun index ⟨_, hget, _⟩ => by simp at hget, rfl, hrunning⟩
  | cons consumption rest ih =>
    simp only [loop, if_pos hrunning]
    by_cases hstop : StopsAt plan ends (consumption :: rest) 0
    · have hdown := step_of_stopsAt codec plan verdicts hcounted hstop
      -- the flag is down, so the loop does nothing with the rest
      have hrest :
          loop codec plan verdicts (step codec plan verdicts state consumption).state rest =
            { state := (step codec plan verdicts state consumption).state, trace := [] } := by
        cases rest <;> simp [loop, hdown]
      refine .inl ⟨0, hstop, fun index hindex => absurd hindex (Nat.not_lt_zero _), ?_, ?_⟩
      · rw [hrest]
        rfl
      · rw [hrest, hdown]
    · obtain ⟨hup, hcounted'⟩ := step_of_not_stopsAt codec plan verdicts hrunning hcounted hstop
      rcases ih hup hcounted' with ⟨last, hlast, hfirst, hsteps, hdown⟩ | ⟨hnever, hsteps, hup'⟩
      · refine .inl ⟨last + 1, stopsAt_succ.2 hlast, fun index hindex => ?_, ?_, hdown⟩
        · cases index with
          | zero => exact hstop
          | succ index => exact mt stopsAt_succ.1 (hfirst index (by omega))
        · rw [hsteps, List.take_succ_cons, steps]
      · refine .inr ⟨fun index => ?_, ?_, hup'⟩
        · cases index with
          | zero => exact hstop
          | succ index => exact mt stopsAt_succ.1 (hnever index)
        · rw [hsteps, steps]

/-- A run has returned just when its loop left the flag down. -/
theorem hasReturned_run (state : State) (consumptions : List Consumption) :
    (run codec plan verdicts state consumptions).HasReturned ↔
      (loop codec plan verdicts state consumptions).state.running = false := by
  -- no step says that the loop stopped
  have hnot : .loopStopped ∉ (loop codec plan verdicts state consumptions).trace.events :=
    fun hmem => Bool.false_ne_true (isOfStep_of_mem_loop codec plan verdicts hmem)
  simp only [Stepped.HasReturned, run, List.cons_append, Trace.events_logged_cons,
    Trace.events_append, List.mem_cons, reduceCtorEq, false_or, List.mem_append, hnot]
  cases (loop codec plan verdicts state consumptions).state.running <;>
    simp [Trace.events, Effect.event?]

/-- A run returns after one number of calls only. -/
theorem ReturnsAfter.unique {plan : Plan} {running : Bool} {consumptions : List Consumption}
    {calls calls' : Nat} (h : ReturnsAfter plan running consumptions calls)
    (h' : ReturnsAfter plan running consumptions calls') : calls = calls' := by
  cases running with
  | false => exact Eq.trans h (Eq.symm h')
  | true =>
    obtain ⟨last, rfl, hlast, hfirst⟩ := h
    obtain ⟨last', rfl, hlast', hfirst'⟩ := h'
    rcases Nat.lt_trichotomy last last' with hlt | rfl | hlt
    · exact absurd hlast (hfirst' last hlt)
    · rfl
    · exact absurd hlast' (hfirst last' hlt)

/-- At the start no end has been seen, and at least one is expected. -/
theorem endsCounted_start : EndsCounted plan 0 ({} : Counters) := fun _ =>
  ⟨rfl, Nat.lt_of_lt_of_le Nat.zero_lt_one (Nat.le_max_right ..)⟩

/-- The loop of a run leaves the flag down after the calls after which the run returns; if it never
returns, all calls were stepped through and the flag is still up. -/
theorem loop_returns (running : Bool) (consumptions : List Consumption) :
    let looped := loop codec plan verdicts { running } consumptions
    (∃ calls, ReturnsAfter plan running consumptions calls ∧ calls ≤ consumptions.length ∧
        looped = steps codec plan verdicts { running } (consumptions.take calls) ∧
        looped.state.running = false) ∨
      (∀ calls, ¬ ReturnsAfter plan running consumptions calls) ∧
        looped = steps codec plan verdicts { running } consumptions ∧
        looped.state.running = true := by
  cases running with
  | false =>
    exact .inl ⟨0, rfl, Nat.zero_le _, by cases consumptions <;> rfl,
      by cases consumptions <;> rfl⟩
  | true =>
    have hrunning : ({} : State).running = true := rfl
    rcases loop_stops codec plan verdicts hrunning (endsCounted_start plan) consumptions
      with ⟨last, hlast, hfirst, hsteps, hdown⟩ | ⟨hnever, hsteps, hup⟩
    · obtain ⟨consumption, hget, -⟩ := id hlast
      exact .inl ⟨last + 1, ⟨last, rfl, hlast, hfirst⟩, (List.getElem?_eq_some_iff.1 hget).1,
        hsteps, hdown⟩
    · exact .inr ⟨fun calls ⟨last, _, hlast, _⟩ => hnever last hlast, hsteps, hup⟩

/-- **A run consumes the calls after which it returns**, and all of them if it never returns. -/
theorem deliveries_run_eq (running : Bool) (consumptions : List Consumption) :
    let deliveries := (run codec plan verdicts { running } consumptions).trace.deliveries
    (∀ calls, ReturnsAfter plan running consumptions calls →
        deliveries = (consumptions.take calls).map (·.delivery)) ∧
      ((∀ calls, ¬ ReturnsAfter plan running consumptions calls) →
        deliveries = consumptions.map (·.delivery)) := by
  simp only [deliveries_run]
  rcases loop_returns codec plan verdicts running consumptions with
    ⟨calls, hcalls, -, hsteps, -⟩ | ⟨hnever, hsteps, -⟩
  · refine ⟨fun calls' hcalls' => ?_, fun hnever => absurd hcalls (hnever calls)⟩
    obtain rfl := hcalls.unique hcalls'
    rw [hsteps, deliveries_steps]
  · refine ⟨fun calls hcalls => absurd hcalls (hnever calls), fun _ => ?_⟩
    rw [hsteps, deliveries_steps]

/-- **A run stops where it should.**  It returns if shutdown was requested beforehand or some
consume call gives cause to stop, and then the flag is down.  It has made no consume call in the
first case, and in the second those up to the first that gives cause, that one included: each of
them was stepped through in full, and nothing was done after it.  A request for shutdown during a
call changes nothing about how the call is handled but the flag: a message that comes with it is
counted, transcoded and offered like any other.  A delivery that is neither a failure nor an end
that counts leaves the flag as it was. -/
theorem run_returnsAfter (codec : Codec) (plan : Plan) (verdicts : Verdicts) (running : Bool)
    (consumptions : List Consumption) :
    let ran := run codec plan verdicts { running } consumptions
    (ran.HasReturned ↔ ∃ calls, ReturnsAfter plan running consumptions calls) ∧
      (ran.HasReturned → ran.state.running = false) ∧
      (∀ calls, ReturnsAfter plan running consumptions calls →
        let handled := steps codec plan verdicts { running } (consumptions.take calls)
        ran.trace.deliveries.length = calls ∧
          ran.trace.deliveries = (consumptions.take calls).map (·.delivery) ∧
          ran.state = handled.state ∧
          ran.trace = .logged (.loopStarting plan.inputTopic plan.outputTopic) :: handled.trace ++
            [.logged .loopStopped]) ∧
      (∀ state delivery,
        let asked := step codec plan verdicts state { delivery, stopRequested := true }
        let unasked := step codec plan verdicts state { delivery }
        asked.trace = unasked.trace ∧ asked.state = { unasked.state with running := false }) ∧
      (∀ state inbound stopRequested, HandlesInFull codec plan verdicts state inbound
        (step codec plan verdicts state { delivery := .message inbound, stopRequested })) ∧
      ∀ state consumption, consumption.delivery.isFatal = false →
        (consumption.delivery.isEnd = true → plan.exitOnEof = false) →
        (step codec plan verdicts state consumption).state.running =
          (state.running && !consumption.stopRequested) := by
  intro ran
  have hreturned := hasReturned_run codec plan verdicts { running } consumptions
  refine ⟨?_, hreturned.1, fun calls hcalls => ?_, step_requested codec plan verdicts,
    handlesInFull_step codec plan verdicts, fun state consumption hfatal hend => ?_⟩
  · rw [hreturned]
    rcases loop_returns codec plan verdicts running consumptions with
      ⟨calls, hcalls, -, -, hdown⟩ | ⟨hnever, -, hup⟩
    · exact iff_of_true hdown ⟨calls, hcalls⟩
    · exact iff_of_false (by rw [hup]; exact Bool.noConfusion) fun ⟨calls, hcalls⟩ =>
        hnever calls hcalls
  · rcases loop_returns codec plan verdicts running consumptions with
      ⟨calls', hcalls', hle, hsteps, hdown⟩ | ⟨hnever, -⟩
    · obtain rfl := hcalls'.unique hcalls
      have hdeliveries :=
        (deliveries_run_eq codec plan verdicts running consumptions).1 calls' hcalls
      refine ⟨?_, hdeliveries, congrArg (·.state) hsteps, ?_⟩
      · rw [hdeliveries, List.length_map, List.length_take, Nat.min_eq_left hle]
      · rw [hsteps] at hdown
        simp only [ran, run, hsteps, hdown, Bool.false_eq_true, if_false]
    · exact absurd hcalls (hnever calls)
  · have hhalts : plan.halts state.counters consumption.delivery = false := by
      rw [Plan.halts, hfatal, Bool.false_or]
      cases hisEnd : consumption.delivery.isEnd with
      | false => rw [Bool.and_false, Bool.false_and]
      | true => rw [hend hisEnd, Bool.false_and, Bool.false_and]
    rw [running_step, hhalts, Bool.not_false, Bool.and_true]

/-- A message that arrives with the request for shutdown is counted and offered, and the one behind
it is not consumed. -/
theorem run_returnsAfter_message :
    let codec : Codec :=
      { Decoded := Octets
        decode := fun payload _ => some payload
        encode := fun value buffer => { buffer := buffer ++ value } }
    let plan : Plan :=
      { inputTopic := "in", outputTopic := "out", partition := some 4, consumeTimeoutMs := 500
        exitOnEof := true, partitionCount := 1 }
    let consumptions : List Consumption :=
      [{ delivery := .message { topic := "in", payload := some [1, 2] } },
        { delivery := .message { topic := "in", payload := some [3] }, stopRequested := true },
        { delivery := .message { topic := "in", payload := some [4] } }]
    let ran := run codec plan (fun _ => none) { running := true } consumptions
    ReturnsAfter plan true consumptions 2 ∧ ran.HasReturned ∧ ran.state.running = false ∧
      ran.trace.deliveries.length = 2 ∧ ran.state.counters.received = { count := 2, bytes := 3 } ∧
      ran.trace.produced = [plan.outbound [1, 2], plan.outbound [3]] := by
  intro codec plan consumptions ran
  have hreturns : ReturnsAfter plan true consumptions 2 := by
    refine ⟨1, rfl, ⟨_, rfl, .inl rfl⟩, fun index hindex => ?_⟩
    obtain rfl : index = 0 := by omega
    rw [stopsAt_zero]
    decide
  obtain ⟨hreturned, hdown, hhandled, -⟩ :=
    run_returnsAfter codec plan (fun _ => none) true consumptions
  obtain ⟨hlength, -, hstate, htrace⟩ := hhandled 2 hreturns
  have hran : ran.HasReturned := hreturned.2 ⟨2, hreturns⟩
  refine ⟨hreturns, hran, hdown hran, hlength, ?_, ?_⟩
  · rw [hstate]
    rfl
  · rw [htrace]
    rfl

end Pipeline
end OctetRelay
