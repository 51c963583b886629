/-
# What a run relays

`relay` says what one delivery amounts to when nothing but the first-block flag
is remembered of those before it, and `relayCalls` lists the calls that relaying
a list of deliveries makes, one offer at most behind each delivery.

`run_relays` is the statement that a run makes these calls and no others, for the
deliveries up to the one after which it returns.  The buffer that all its messages
share does not show in them: whatever the encoder of one message left there, the
next message is encoded as if it were alone.

Source: `run` and `handle_message` of `Pipeline`; `SPEC_FULL.md` 4.3, Decode/Encode
Bridge, and 4.4, Consumer-Producer Loop.
-/

import OctetRelay.Proofs.StopPoint

namespace OctetRelay
namespace Pipeline

/-- What one delivery amounts to: the first-block flag after it, and what is offered of it. -/
structure Relayed where
  isFirst : Bool
  payload? : Option Octets

/-- Relays one delivery. -/
def relay (codec : Codec) (isFirst : Bool) : Delivery → Relayed
  | .message inbound =>
    if inbound.content = [] then { isFirst, payload? := none }
    else
      match codec.decode inbound.content isFirst with
      | none => { isFirst, payload? := none }
      | some value => { isFirst := false, payload? := (codec.write value).toOption }
  | .timeout | .partitionEnd _ | .unknownTopic _ | .unknownPartition _ | .failure _ =>
    { isFirst, payload? := none }

/-- The calls that relaying deliveries makes, the next attempt being the one of a number. -/
def relayCalls (codec : Codec) (plan : Plan) (verdicts : Verdicts) (attempt : Nat)
    (isFirst : Bool) : List Delivery → Trace
  | [] => []
  | delivery :: rest =>
    let relayed := relay codec isFirst delivery
    match relayed.payload? with
    | none => .consumed delivery :: relayCalls codec plan verdicts attempt relayed.isFirst rest
    | some payload =>
      .consumed delivery :: .offered (plan.outbound payload) (verdicts attempt) ::
        relayCalls codec plan verdicts (attempt + 1) relayed.isFirst rest

variable (codec : Codec) (plan : Plan) (verdicts : Verdicts)

/-- A message is relayed as its fate has it. -/
theorem relay_message (isFirst : Bool) (verdict : Option String) (inbound : InboundMessage) :
    relay codec isFirst (.message inbound) =
      { isFirst := isFirst && !(fate codec isFirst verdict inbound).isDecoded
        payload? := (fate codec isFirst verdict inbound).offered? } := by
  unfold relay fate InboundMessage.isEmpty
  by_cases hempty : inbound.content = []
  · simp [hempty, Fate.isDecoded, Fate.offered?]
  · simp only [hempty, if_false, List.isEmpty_iff]
    cases codec.decode inbound.content isFirst with
    | none => simp [Fate.isDecoded, Fate.offered?]
    | some value =>
      cases hwrite : codec.write value with
      | error reason => simp [hwrite, Fate.isDecoded, Fate.offered?, Except.toOption]
      | ok payload =>
        cases verdict <;> simp [hwrite, Fate.isDecoded, Fate.offered?, Except.toOption]

/-- What is offered of a delivery is written for the value that the message decodes to. -/
theorem of_payload?_relay (isFirst : Bool) {delivery : Delivery} {payload : Octets}
    (h : (relay codec isFirst delivery).payload? = some payload) :
    ∃ inbound value, delivery = .message inbound ∧
      codec.decode inbound.content isFirst = some value ∧ codec.write value = .ok payload := by
  cases delivery with
  | message inbound =>
    simp only [relay] at h
    split at h
    · cases h
    · cases hdecode : codec.decode inbound.content isFirst with
      | none => simp [hdecode] at h
      | some value =>
        simp only [hdecode] at h
        cases hwrite : codec.write value with
        | error reason => simp [hwrite, Except.toOption] at h
        | ok written =>
          simp only [hwrite, Except.toOption, Option.some.injEq] at h
          exact ⟨inbound, value, rfl, hdecode, h ▸ hwrite⟩
  | timeout | partitionEnd | unknownTopic | unknownPartition | failure => cases h

/-- What is no message is not relayed. -/
theorem relay_of_no_message (isFirst : Bool) {delivery : Delivery} (h : delivery.message? = none) :
    relay codec isFirst delivery = { isFirst, payload? := none } := by
  cases delivery <;> first | rfl | simp [Delivery.message?] at h

/-- The calls of a fate are one offer at most, with the producer's next verdict. -/
theorem calls_effects (isFirst : Bool) (verdict : Option String) (inbound : InboundMessage) :
    Trace.calls ((fate codec isFirst verdict inbound).effects plan isFirst inbound) =
      (fate codec isFirst verdict inbound).offered?.toList.map
        fun payload => .offered (plan.outbound payload) verdict := by
  unfold fate
  split
  · rfl
  · split
    · rfl
    · split <;> rfl

/-- **A step relays** what it consumes: it makes the calls of relaying it, and leaves the flag and
the number of attempts that relaying it leaves. -/
theorem step_relays (state : State) (consumption : Consumption) :
    let relayed := relay codec state.isFirst consumption.delivery
    let stepped := step codec plan verdicts state consumption
    stepped.state.isFirst = relayed.isFirst ∧
      stepped.state.attempts = state.attempts + relayed.payload?.toList.length ∧
      stepped.trace.calls = .consumed consumption.delivery ::
        relayed.payload?.toList.map fun payload =>
          .offered (plan.outbound payload) (verdicts state.attempts) := by
  cases hmessage : consumption.delivery.message? with
  | none =>
    rw [step_of_no_message codec plan verdicts state hmessage, relay_of_no_message codec _ hmessage]
    exact ⟨rfl, rfl, congrArg (List.cons _) (Trace.calls_map_logged _)⟩
  | some inbound =>
    rw [step_of_message codec plan verdicts state hmessage,
      Delivery.eq_message_of_message? hmessage,
      relay_message codec state.isFirst (verdicts state.attempts)]
    exact ⟨rfl, rfl, congrArg (List.cons _)
      (calls_effects codec plan state.isFirst (verdicts state.attempts) inbound)⟩

/-- The calls of the first delivery come first, and the others go on from what it leaves. -/
theorem relayCalls_cons (attempt : Nat) (isFirst : Bool) (delivery : Delivery)
    (rest : List Delivery) :
    relayCalls codec plan verdicts attempt isFirst (delivery :: rest) =
      let relayed := relay codec isFirst delivery
      (.consumed delivery :: relayed.payload?.toList.map fun payload =>
        .offered (plan.outbound payload) (verdicts attempt)) ++
        relayCalls codec plan verdicts (attempt + relayed.payload?.toList.length) relayed.isFirst
          rest := by
  simp only [relayCalls]
  cases (relay codec isFirst delivery).payload? <;> rfl

/-- **Steps relay** what they consume. -/
theorem steps_relay (state : State) (consumptions : List Consumption) :
    (steps codec plan verdicts state consumptions).trace.calls =
      relayCalls codec plan verdicts state.attempts state.isFirst
        (consumptions.map (·.delivery)) := by
  induction consumptions generalizing state with
  | nil => rfl
  | cons consumption rest ih =>
    obtain ⟨hflag, hattempts, hcalls⟩ := step_relays codec plan verdicts state consumption
    rw [List.map_cons, relayCalls_cons, steps, Trace.calls_append, hcalls, ih, hflag, hattempts]

/-- What is offered while relaying is the encoding of a delivered message's own value. -/
theorem exists_own_of_mem_relayCalls {outbound : OutboundMessage} {refusal : Option String}
    (attempt : Nat) (isFirst : Bool) (deliveries : List Delivery)
    (h : .offered outbound refusal ∈ relayCalls codec plan verdicts attempt isFirst deliveries) :
    ∃ inbound flag value, .message inbound ∈ deliveries ∧
      codec.decode inbound.content flag = some value ∧
      codec.encode value [] = { buffer := outbound.payload } := by
  induction deliveries generalizing attempt isFirst with
  | nil => simp [relayCalls] at h
  | cons delivery rest ih =>
    rw [relayCalls_cons, List.mem_append] at h
    rcases h with h | h
    · rcases List.mem_cons.1 h with h | h
      · cases h
      obtain ⟨payload, hpayload, hoffer⟩ := List.mem_map.1 h
      rw [Option.mem_toList] at hpayload
      cases hoffer
      obtain ⟨inbound, value, rfl, hdecode, hwrite⟩ := of_payload?_relay codec isFirst hpayload
      exact ⟨inbound, isFirst, value, List.mem_cons_self .., hdecode,
        (Codec.write_eq_ok_iff.1 hwrite).1⟩
    · obtain ⟨inbound, flag, value, hmem, hdecode, hencode⟩ := ih _ _ h
      exact ⟨inbound, flag, value, List.mem_cons_of_mem _ hmem, hdecode, hencode⟩

/-- The loop relays what it consumes, and consumes the calls in order. -/
theorem loop_relays (state : State) (consumptions : List Consumption) :
    let trace := (loop codec plan verdicts state consumptions).trace
    trace.deliveries <+: consumptions.map (·.delivery) ∧
      trace.calls =
        relayCalls codec plan verdicts state.attempts state.isFirst trace.deliveries := by
  obtain ⟨calls, hloop⟩ := loop_eq_steps_take codec plan verdicts state consumptions
  rw [hloop]
  constructor
  · rw [deliveries_steps, List.map_take]
    exact List.take_prefix ..
  · rw [deliveries_steps]
    exact steps_relay codec plan verdicts state _

/-- **A run relays.**  It consumes the calls after which it returns, or all of them if it does not
return.  Its calls are those of relaying what it consumes, from the first attempt and with the
first-block flag up: behind each delivery stands one offer at most, with the verdict of
its turn.  So what is offered to the producer, and what the producer accepts, is what relaying
offers it; and each offer is what the encoder leaves in an empty buffer for the value that one of
the consumed messages decodes to, free of octets of any other message. -/
theorem run_relays (codec : Codec) (plan : Plan) (verdicts : Verdicts) (running : Bool)
    (consumptions : List Consumption) :
    let trace := (run codec plan verdicts { running } consumptions).trace
    let relayed := relayCalls codec plan verdicts 0 true trace.deliveries
    trace.deliveries <+: consumptions.map (·.delivery) ∧
      (∀ calls, ReturnsAfter plan running consumptions calls →
        trace.deliveries = (consumptions.take calls).map (·.delivery)) ∧
      ((∀ calls, ¬ ReturnsAfter plan running consumptions calls) →
        trace.deliveries = consumptions.map (·.delivery)) ∧
      trace.calls = relayed ∧
      trace.offered = relayed.offered ∧
      trace.produced = relayed.produced ∧
      ∀ outbound ∈ trace.offered, ∃ inbound flag value, .message inbound ∈ trace.deliveries ∧
        codec.decode inbound.content flag = some value ∧
        codec.encode value [] = { buffer := outbound.payload } := by
  intro trace relayed
  obtain ⟨hdeliveries, hloop⟩ := loop_relays codec plan verdicts { running } consumptions
  have hcalls : trace.calls = relayed := by
    rw [calls_run, hloop, ← deliveries_run]
  obtain ⟨hreturns, hnever⟩ := deliveries_run_eq codec plan verdicts running consumptions
  refine ⟨deliveries_run codec plan verdicts _ consumptions ▸ hdeliveries, hreturns, hnever, hcalls,
    ?_, ?_, ?_⟩
  · rw [← hcalls, Trace.offered_calls]
  · rw [← hcalls, Trace.produced_calls]
  · intro outbound houtbound
    rw [← Trace.offered_calls, hcalls] at houtbound
    obtain ⟨refusal, hmem⟩ := Trace.mem_offered houtbound
    exact exists_own_of_mem_relayCalls codec plan verdicts 0 true _ hmem

/-- What an encoder wrote before it failed is not seen in the next message, and a message behind the
failure of the consumer is not relayed. -/
theorem run_relays_failing_encoder :
    let codec : Codec :=
      { Decoded := Octets
        decode := fun payload _ => some payload
        encode := fun value buffer =>
          { buffer := buffer ++ value, failure := if value = [1] then some ⟨"one"⟩ else none } }
    let plan : Plan :=
      { inputTopic := "in", outputTopic := "out", partition := some 4, consumeTimeoutMs := 500
        exitOnEof := false, partitionCount := 1 }
    let consumptions : List Consumption :=
      [{ delivery := .message { topic := "in", payload := some [1] } },
        { delivery := .message { topic := "in", payload := some [2, 3] } },
        { delivery := .failure "broker down" },
        { delivery := .message { topic := "in", payload := some [4] } }]
    let trace := (run codec plan (fun _ => none) { running := true } consumptions).trace
    ReturnsAfter plan true consumptions 3 ∧
      trace.deliveries = (consumptions.take 3).map (·.delivery) ∧
      trace.produced = [{ topic := "out", partition := some 4, payload := [2, 3] }] := by
  intro codec plan consumptions trace
  have hreturns : ReturnsAfter plan true consumptions 3 := by
    refine ⟨2, rfl, ⟨_, rfl, .inr (.inl rfl)⟩, fun index hindex => ?_⟩
    obtain rfl | rfl : index = 0 ∨ index = 0 + 1 := by omega
    · rw [stopsAt_zero]
      decide
    · rw [stopsAt_succ, stopsAt_zero]
      decide
  obtain ⟨-, hdeliveries, -, -, -, hproduced, -⟩ :=
    run_relays codec plan (fun _ => none) true consumptions
  refine ⟨hreturns, hdeliveries 3 hreturns, ?_⟩
  rw [hproduced, hdeliveries 3 hreturns]
  rfl

end Pipeline
end OctetRelay
