/-
# Nothing is lost in silence

The counters of a run are the totals of its trace (`counters_steps`): what was
received is what the consume calls brought, and what was sent is what the
producer accepted, message for message and octet for octet.  And the trace
balances: each message that is not empty is either accepted by the producer or
logged as lost, once and not both (`outcomes_step`).

Counters are machine words, so their equations hold in the arithmetic of words
whatever the totals are.  `steps_conserve` reads them as numbers, as long as the
totals fit.

Source: `handle_message` and `handle_eof`; `SPEC_FULL.md` 8, received and sent
messages.
-/

import Mathlib
import OctetRelay.Proofs.Steps

namespace OctetRelay

/-- Counts messages of the given lengths. -/
def Tally.recordAll (tally : Tally) (lengths : List Nat) : Tally :=
  lengths.foldl (fun tally length => tally.record (.ofNat length)) tally

namespace Tally

/-- Lengths in two lists are counted one list after the other. -/
theorem recordAll_append (tally : Tally) (front back : List Nat) :
    tally.recordAll (front ++ back) = (tally.recordAll front).recordAll back :=
  List.foldl_append

/-- The number of messages grows by the number of lengths, in the arithmetic of words. -/
theorem count_recordAll (tally : Tally) (lengths : List Nat) :
    (tally.recordAll lengths).count = tally.count + .ofNat lengths.length := by
  induction lengths generalizing tally with
  | nil => exact (UInt64.add_zero _).symm
  | cons length lengths ih =>
    rw [recordAll, List.foldl_cons, ← recordAll, ih, List.length_cons, UInt64.ofNat_add, record,
      UInt64.add_assoc, UInt64.add_comm (.ofNat lengths.length)]
    rfl

/-- The number of octets grows by the sum of the lengths, in the arithmetic of words. -/
theorem bytes_recordAll (tally : Tally) (lengths : List Nat) :
    (tally.recordAll lengths).bytes = tally.bytes + .ofNat lengths.sum := by
  induction lengths generalizing tally with
  | nil => exact (UInt64.add_zero _).symm
  | cons length lengths ih =>
    rw [recordAll, List.foldl_cons, ← recordAll, ih, List.sum_cons, UInt64.ofNat_add, record,
      UInt64.add_assoc]

/-- From nothing, a tally counts messages and octets as long as they fit. -/
theorem toNat_recordAll {lengths : List Nat} (hcount : lengths.length < 2 ^ 64)
    (hbytes : lengths.sum < 2 ^ 64) :
    (recordAll {} lengths).count.toNat = lengths.length ∧
      (recordAll {} lengths).bytes.toNat = lengths.sum := by
  rw [count_recordAll, bytes_recordAll, UInt64.zero_add, UInt64.zero_add]
  exact ⟨UInt64.toNat_ofNat_of_lt hcount, UInt64.toNat_ofNat_of_lt hbytes⟩

end Tally

/-- Nothing is to be transcoded where there is no payload or an empty one. -/
theorem InboundMessage.isEmpty_eq (inbound : InboundMessage) :
    inbound.isEmpty = decide (inbound.payload = none ∨ inbound.payload = some []) := by
  rw [isEmpty, content]
  rcases inbound.payload with _ | _ | _ <;> rfl

/-- The messages of the events that tell of a lost message. -/
def Event.lossMessages : List String :=
  ["Failed to decode message", "Failed to encode message as XER", "Failed to produce message"]

/-- Whether an event tells, as an error, of a lost message. -/
def Event.isLoss (event : Event) : Bool :=
  event.level = .error && lossMessages.contains event.message

/-- The errors that tell of a lost message are those of the three ways to lose one. -/
theorem Event.isLoss_eq (event : Event) :
    event.isLoss =
      match event with
      | .decodeFailed _ _ | .encodeFailed _ _ | .produceFailed _ => true
      | _ => false := by
  cases event <;> simp [isLoss, level, message, lossMessages]

namespace Trace

/-- The messages that were received. -/
def received (trace : Trace) : List InboundMessage := trace.deliveries.filterMap Delivery.message?

/-- The number of ends of partition that were seen. -/
def ends (trace : Trace) : Nat := trace.deliveries.countP Delivery.isEnd

/-- The number of messages that were logged as lost. -/
def losses (trace : Trace) : Nat := trace.events.countP Event.isLoss

/-- Where nothing happened nothing was lost. -/
@[simp] theorem losses_nil : losses [] = 0 := rfl

/-- An event counts as a loss if it is one. -/
@[simp] theorem losses_logged_cons (event : Event) (trace : Trace) :
    losses (.logged event :: trace) = event.isLoss.toNat + losses trace := by
  rw [losses, events_logged_cons, List.countP_cons, losses]
  cases event.isLoss <;> simp [Nat.add_comm]

/-- Handing a message to the producer is no loss by itself. -/
@[simp] theorem losses_offered_cons (outbound : OutboundMessage) (refusal : Option String)
    (trace : Trace) : losses (.offered outbound refusal :: trace) = losses trace := rfl

/-- Neither is a consume call. -/
@[simp] theorem losses_consumed_cons (delivery : Delivery) (trace : Trace) :
    losses (.consumed delivery :: trace) = losses trace := rfl

/-- Messages are received in both parts of a trace. -/
@[simp] theorem received_append (front back : Trace) :
    received (front ++ back) = received front ++ received back := by
  rw [received, deliveries_append, List.filterMap_append]
  rfl

/-- Ends of partition are seen in both parts of a trace. -/
@[simp] theorem ends_append (front back : Trace) :
    ends (front ++ back) = ends front + ends back := by
  rw [ends, deliveries_append, List.countP_append]
  rfl

/-- Messages are lost in both parts of a trace. -/
@[simp] theorem losses_append (front back : Trace) :
    losses (front ++ back) = losses front + losses back := by
  rw [losses, events_append, List.countP_append]
  rfl

end Trace

namespace Pipeline

/-- The counters after the effects of a trace. -/
def Plan.account (plan : Plan) (counters : Counters) (trace : Trace) : Counters :=
  { received := counters.received.recordAll (trace.received.map (·.length))
    sent := counters.sent.recordAll (trace.produced.map (·.payload.length))
    filtered := counters.filtered
    ends := counters.ends + .ofNat (if plan.exitOnEof then trace.ends else 0) }

/-- The account of a joined trace goes on where that of its first part ends. -/
theorem account_append (plan : Plan) (counters : Counters) (front back : Trace) :
    plan.account counters (front ++ back) = plan.account (plan.account counters front) back := by
  simp only [Plan.account, Trace.received_append, Trace.produced_append, Trace.ends_append,
    List.map_append, Tally.recordAll_append, Counters.mk.injEq, true_and]
  split
  · rw [UInt32.ofNat_add, UInt32.add_assoc]
  · exact (UInt32.add_zero _).symm

variable (codec : Codec) (plan : Plan) (verdicts : Verdicts)

/-- A step receives the message of its delivery, if there is one. -/
theorem received_step (state : State) (consumption : Consumption) :
    (step codec plan verdicts state consumption).trace.received =
      consumption.delivery.message?.toList := by
  rw [Trace.received, deliveries_step]
  cases hmessage : consumption.delivery.message? <;> simp [hmessage]

/-- A step sees an end of partition if its delivery is one. -/
theorem ends_step_trace (state : State) (consumption : Consumption) :
    (step codec plan verdicts state consumption).trace.ends =
      consumption.delivery.isEnd.toNat := by
  rw [Trace.ends, deliveries_step]
  cases hend : consumption.delivery.isEnd <;> simp [hend]

/-- The producer accepts in a step what the fate of its message has it accept. -/
theorem produced_step (state : State) (consumption : Consumption) :
    (step codec plan verdicts state consumption).trace.produced =
      (consumption.delivery.message?.bind fun inbound =>
        (fate codec state.isFirst (verdicts state.attempts) inbound).sent?).toList.map
          plan.outbound := by
  cases hmessage : consumption.delivery.message? with
  | none =>
    rw [step_of_no_message codec plan verdicts state hmessage]
    exact Trace.produced_map_logged _
  | some inbound =>
    rw [step_of_message codec plan verdicts state hmessage, Option.bind_some]
    cases fate codec state.isFirst (verdicts state.attempts) inbound <;> rfl

/-- An end of partition is counted where ends may stop the loop. -/
theorem countEnd_eq (counters : Counters) (delivery : Delivery) :
    plan.countEnd counters delivery =
      { counters with
        ends := counters.ends + .ofNat (if plan.exitOnEof then delivery.isEnd.toNat else 0) } := by
  rw [Plan.countEnd]
  cases plan.exitOnEof <;> cases delivery.isEnd <;> simp [Counters.recordEnd]

/-- A fate counts a received message, and a sent one if the producer accepts it. -/
theorem count_eq (counters : Counters) (inbound : InboundMessage) (fate : Fate) :
    fate.count counters inbound =
      { counters with
        received := counters.received.recordAll [inbound.length]
        sent := counters.sent.recordAll (fate.sent?.toList.map (·.length)) } := by
  cases fate <;> rfl

/-- **A step keeps account** of its effects. -/
theorem counters_step (state : State) (consumption : Consumption) :
    let stepped := step codec plan verdicts state consumption
    stepped.state.counters = plan.account state.counters stepped.trace := by
  intro stepped
  rw [Plan.account, received_step, produced_step, ends_step_trace, List.map_map]
  cases hmessage : consumption.delivery.message? with
  | none =>
    simp only [stepped, step_of_no_message codec plan verdicts state hmessage, countEnd_eq]
    rfl
  | some inbound =>
    simp only [stepped, step_of_message codec plan verdicts state hmessage, Fate.settle, count_eq,
      Delivery.eq_message_of_message? hmessage, Option.bind_some]
    simp [Delivery.isEnd, Function.comp_def, Plan.outbound, State.ready]

/-- **Steps keep account** of their effects. -/
theorem counters_steps (state : State) (consumptions : List Consumption) :
    let stepped := steps codec plan verdicts state consumptions
    stepped.state.counters = plan.account state.counters stepped.trace := by
  induction consumptions generalizing state with
  | nil =>
    simp [steps, Plan.account, Trace.received, Trace.produced, Trace.ends, Tally.recordAll,
      Trace.deliveries]
  | cons consumption rest ih =>
    simp only [steps, account_append, ← counters_step]
    exact ih _

/-- A fate logs a loss if it is one of the three ways to lose a message. -/
theorem losses_effects (isFirst : Bool) (inbound : InboundMessage) (fate : Fate) :
    Trace.losses (fate.effects plan isFirst inbound) =
      match fate with
      | .undecodable | .unencodable _ | .refused _ _ => 1
      | .empty | .sent _ => 0 := by
  cases fate <;> simp [Fate.effects, Event.isLoss_eq]

/-- A message that is not empty is either accepted by the producer or logged as lost, once and not
both. -/
theorem outcomes_fate (isFirst : Bool) (verdict : Option String) (inbound : InboundMessage) :
    let fate := fate codec isFirst verdict inbound
    fate.sent?.toList.length + Trace.losses (fate.effects plan isFirst inbound) =
      (!inbound.isEmpty).toNat := by
  simp only [losses_effects, fate]
  cases hempty : inbound.isEmpty with
  | true => rfl
  | false =>
    simp only [Bool.false_eq_true, if_false]
    cases codec.decode inbound.content isFirst with
    | none => rfl
    | some value => cases hwrite : codec.write value <;> cases verdict <;> simp [hwrite, Fate.sent?]

/-- What is logged of a delivery that is no message tells of no lost message. -/
theorem losses_reports (counters : Counters) (delivery : Delivery) :
    Trace.losses ((plan.reports counters delivery).map .logged) = 0 := by
  rw [Trace.losses, Trace.events_map_logged, List.countP_eq_zero]
  intro event hevent
  rw [Event.isLoss_eq]
  cases delivery with
  | partitionEnd partition =>
    simp only [Plan.reports, List.mem_cons] at hevent
    rcases hevent with rfl | hevent
    · exact Bool.false_ne_true
    · split at hevent
      · rw [List.mem_singleton.1 hevent]
        exact Bool.false_ne_true
      · cases hevent
  | message inbound => cases hevent
  | timeout | unknownTopic | unknownPartition | failure =>
    rw [List.mem_singleton.1 hevent]
    exact Bool.false_ne_true

/-- **A step settles the account of its message**, if there is one that is not empty: either the
producer accepts it or it is logged as lost, once and not both. -/
theorem outcomes_step (state : State) (consumption : Consumption) :
    let trace := (step codec plan verdicts state consumption).trace
    trace.produced.length + trace.losses =
      consumption.delivery.message?.toList.countP (!·.isEmpty) := by
  intro trace
  rw [produced_step, List.length_map]
  cases hmessage : consumption.delivery.message? with
  | none =>
    have hlosses : trace.losses = 0 := by
      simp only [trace, step_of_no_message codec plan verdicts state hmessage,
        Trace.losses_consumed_cons, losses_reports]
    rw [hlosses]
    rfl
  | some inbound =>
    have houtcomes := outcomes_fate codec plan state.isFirst (verdicts state.attempts) inbound
    simp only [trace, step_of_message codec plan verdicts state hmessage, Fate.settle,
      Trace.losses_consumed_cons, Trace.losses_logged_cons, Event.isLoss_eq, Bool.toNat_false,
      Nat.zero_add, Option.bind_some]
    refine houtcomes.trans ?_
    cases hempty : inbound.isEmpty <;> simp [hempty]

/-- **The outcomes balance**: among the messages received, as many are not empty as are sent or
logged as lost. -/
theorem outcomes_steps (state : State) (consumptions : List Consumption) :
    let trace := (steps codec plan verdicts state consumptions).trace
    trace.produced.length + trace.losses = trace.received.countP (!·.isEmpty) := by
  induction consumptions generalizing state with
  | nil => rfl
  | cons consumption rest ih =>
    have hfirst := outcomes_step codec plan verdicts state consumption
    have hrest := ih (step codec plan verdicts state consumption).state
    simp only [steps, Trace.produced_append, Trace.losses_append, Trace.received_append,
      List.length_append, List.countP_append, received_step] at hfirst hrest ⊢
    omega

/-- The messages that consume calls come back with. -/
def messages (consumptions : List Consumption) : List InboundMessage :=
  consumptions.filterMap (·.delivery.message?)

/-- The number of ends of partition that consume calls come back with. -/
def endCount (consumptions : List Consumption) : Nat := consumptions.countP (·.delivery.isEnd)

/-- Steps receive what the calls come back with. -/
theorem received_steps (state : State) (consumptions : List Consumption) :
    (steps codec plan verdicts state consumptions).trace.received = messages consumptions := by
  rw [Trace.received, deliveries_steps, List.filterMap_map]
  rfl

/-- Steps see the ends of partition that the calls come back with. -/
theorem ends_steps (state : State) (consumptions : List Consumption) :
    (steps codec plan verdicts state consumptions).trace.ends = endCount consumptions := by
  rw [Trace.ends, deliveries_steps, List.countP_map]
  rfl

/-- **Conservation.**  After any number of steps, as long as the totals fit the counters:

* the messages received are counted, with the octets of their payloads;
* the messages that the producer accepted are counted as sent, with their octets;
* nothing is filtered, and ends of partition are counted where they may stop the loop;
* each message received was sent, had no payload or an empty one, or was logged as lost.

A single step sends its message or logs it as lost, but not both, if there is one whose payload is
not empty. -/
theorem steps_conserve (running : Bool) (consumptions : List Consumption)
    (hcount : (messages consumptions).length < 2 ^ 64)
    (hbytes : ((messages consumptions).map fun inbound =>
      (inbound.payload.getD []).length).sum < 2 ^ 64)
    (hsent : ((steps codec plan verdicts { running } consumptions).trace.produced.map
      (·.payload.length)).sum < 2 ^ 64)
    (hends : plan.exitOnEof → endCount consumptions < 2 ^ 32) :
    let reached := steps codec plan verdicts { running } consumptions
    let counters := reached.state.counters
    let received := messages consumptions
    let produced := reached.trace.produced
    let isBare (inbound : InboundMessage) : Bool :=
      inbound.payload = none ∨ inbound.payload = some []
    counters.received.count.toNat = received.length ∧
      counters.received.bytes.toNat =
        (received.map fun inbound => (inbound.payload.getD []).length).sum ∧
      counters.sent.count.toNat = produced.length ∧
      counters.sent.bytes.toNat = (produced.map (·.payload.length)).sum ∧
      counters.filtered = {} ∧
      counters.ends.toNat = (if plan.exitOnEof then endCount consumptions else 0) ∧
      counters.received.count.toNat =
        counters.sent.count.toNat + received.countP isBare + reached.trace.losses ∧
      ∀ state consumption,
        let trace := (step codec plan verdicts state consumption).trace
        trace.produced.length + trace.losses =
          consumption.delivery.message?.toList.countP fun inbound => !isBare inbound := by
  intro reached counters received produced isBare
  have hbare : isBare = InboundMessage.isEmpty := funext fun inbound => inbound.isEmpty_eq.symm
  have haccount : counters = plan.account {} reached.trace :=
    counters_steps codec plan verdicts { running } consumptions
  have hreceived : reached.trace.received = received := received_steps ..
  have houtcomes : produced.length + reached.trace.losses = received.countP (!isBare ·) := by
    rw [← hreceived, hbare]
    exact outcomes_steps codec plan verdicts { running } consumptions
  have hsplit : received.length = received.countP isBare + received.countP (!isBare ·) := by
    rw [List.length_eq_countP_add_countP isBare]
    simp
  -- No more is sent than is received, so the count of what is sent fits as well.
  have hproduced : produced.length < 2 ^ 64 := by
    have hlength : received.length < 2 ^ 64 := hcount
    omega
  have hreceivedTally : counters.received.count.toNat = received.length ∧
      counters.received.bytes.toNat = (received.map (·.length)).sum := by
    rw [haccount, Plan.account, hreceived, ← List.length_map (·.length)]
    exact Tally.toNat_recordAll (by rwa [List.length_map]) hbytes
  have hsentTally : counters.sent.count.toNat = produced.length ∧
      counters.sent.bytes.toNat = (produced.map (·.payload.length)).sum := by
    rw [haccount, Plan.account, ← List.length_map (·.payload.length)]
    exact Tally.toNat_recordAll (by rwa [List.length_map]) hsent
  refine ⟨hreceivedTally.1, hreceivedTally.2, hsentTally.1, hsentTally.2, ?_, ?_, ?_, ?_⟩
  · rw [haccount]
    rfl
  · rw [haccount, Plan.account, ends_steps, UInt32.zero_add]
    split
    · exact UInt32.toNat_ofNat_of_lt (hends ‹_›)
    · rfl
  · rw [hreceivedTally.1, hsentTally.1]
    omega
  · rw [hbare]
    exact outcomes_step codec plan verdicts

/-- A codec that passes payloads on. -/
def passing : Codec where
  Decoded := Octets
  decode payload _ := some payload
  encode payload output := { buffer := output ++ payload }

/-- Of a message that is sent, one that is refused, and two without payload or with an empty one,
none is lost in silence. -/
theorem steps_conserve_passing :
    let plan : Plan :=
      { inputTopic := "in", outputTopic := "out", partition := none, consumeTimeoutMs := 0,
        exitOnEof := true, partitionCount := 2 }
    let verdicts : Verdicts := fun attempt => if attempt = 1 then some "queue full" else none
    let consumptions : List Consumption :=
      [{ delivery := .message { topic := "in", payload := some [1, 2] } },
        { delivery := .partitionEnd 0 },
        { delivery := .message { topic := "in", payload := some [3] } },
        { delivery := .message { topic := "in", payload := none } },
        { delivery := .message { topic := "in", payload := some [] } }]
    let reached := steps passing plan verdicts { running := true } consumptions
    reached.state.counters.received.count.toNat = 4 ∧
      reached.state.counters.received.bytes.toNat = 3 ∧
      reached.state.counters.sent.count.toNat = 1 ∧
      reached.state.counters.sent.bytes.toNat = 2 ∧
      reached.state.counters.ends.toNat = 1 ∧
      reached.trace.losses = 1 := by
  intro plan verdicts consumptions reached
  obtain ⟨hreceived, hoctets, hsent, hsentOctets, -, hends, hbalance, -⟩ :=
    steps_conserve passing plan verdicts true consumptions (by decide) (by decide) (by decide)
      (fun _ => by decide)
  have hproduced : reached.trace.produced = [plan.outbound [1, 2]] := by decide
  refine ⟨hreceived.trans (by decide), hoctets.trans (by decide), hsent.trans (by decide),
    hsentOctets.trans ?_, hends.trans (by decide), ?_⟩
  · exact congrArg (fun produced => (produced.map (·.payload.length)).sum) hproduced
  · rw [hreceived, hsent] at hbalance
    change 4 = reached.trace.produced.length + 2 + reached.trace.losses at hbalance
    rw [hproduced, List.length_singleton] at hbalance
    omega

end Pipeline
end OctetRelay
