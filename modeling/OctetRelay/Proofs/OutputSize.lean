/-
# How large the output gets

An element spells each octet of its content with two octets and has 29 more for
its tags.  The content of a payload is shorter than the payload, by an octet for
each fragment and by one or two for the last determinant (`Encodes.length_eq`):

| of a content of `n` octets in `k` fragments | octets |
| --- | --- |
| the payload | `n + k + 1` or `n + k + 2`, and those that are skipped |
| the element | `29 + 2 n`, at most twice the payload and 27 |

So what a step sends is bounded by what it received (`outputBound_step`), and the
bounds of single steps add up to one for all of them (`outputBound_steps`).
Messages that are empty, do not decode or are refused are received and not sent,
which only leaves more room.

Source: `decode_uper` and `handle_message`; `SPEC_FULL.md` 8, sent octets.
-/

import OctetRelay.Proofs.Conservation
import OctetRelay.Proofs.Grammar

namespace OctetRelay
namespace Uper

/-- The number of fragments in front of the last octets of an encoding. -/
def fragments (input : Octets) : Nat :=
  match h : readLength input with
  | some (.fragment units, rest) =>
    have := length_lt_of_readLength h
    fragments (rest.drop (units * fragmentUnit)) + 1
  | some (.last _, _) | none => 0
termination_by input.length
decreasing_by
  simp only [List.length_drop]; omega

/-- There is no fragment in front of a last determinant. -/
theorem fragments_of_last {input rest : Octets} {count : Nat}
    (h : readLength input = some (.last count, rest)) : fragments input = 0 := by
  rw [fragments]
  split <;> simp_all

/-- A fragment stands in front of those behind it. -/
theorem fragments_of_fragment {input rest : Octets} {units : Nat}
    (h : readLength input = some (.fragment units, rest)) :
    fragments input = fragments (rest.drop (units * fragmentUnit)) + 1 := by
  rw [fragments]
  split <;> simp_all

/-- **What an encoding adds to its content**: an octet for each fragment, and one or two for the last
determinant. -/
theorem Encodes.length_eq {input content : Octets} (h : Encodes input content) :
    (input.length = content.length + fragments input + 1 ∨
        input.length = content.length + fragments input + 2) ∧
      16384 * fragments input ≤ content.length := by
  induction h with
  | @short n content hn hlength =>
    rw [fragments_of_last (readLength_short hn content)]
    exact ⟨.inl rfl, Nat.zero_le _⟩
  | @long high low content hhigh hlength =>
    rw [fragments_of_last (readLength_long hhigh low content)]
    exact ⟨.inr rfl, Nat.zero_le _⟩
  | @fragment units octets input content hunits hlength hrest ih =>
    have hunit : octets.length = units * fragmentUnit := hlength
    have hdrop : (octets ++ input).drop (units * fragmentUnit) = input := by
      rw [← hunit, List.drop_left]
    obtain ⟨hinput, hcontent⟩ := ih
    rw [fragments_of_fragment (readLength_fragment hunits (octets ++ input)), hdrop,
      List.length_cons, List.length_append, List.length_append]
    omega

/-- The content of a payload is shorter than the payload. -/
theorem length_lt_of_decode {input content : Octets} (h : decode input = some content) :
    content.length < input.length := by
  obtain ⟨hlength, -⟩ := (decode_eq_some_iff.1 h).length_eq
  omega

end Uper

/-- **What the codec decodes is shorter than the payload**, whether or not octets of it are
skipped. -/
theorem Codec.length_lt_of_octetString_decode {skipped : UInt64} {payload content : Octets}
    {isFirst : Bool} (h : (octetString skipped).decode payload isFirst = some content) :
    content.length < payload.length := by
  have hlater {input : Octets} (h : (octetString skipped).decode input false = some content) :
      content.length < input.length := Uper.length_lt_of_decode h
  cases isFirst with
  | false => exact hlater h
  | true =>
    obtain ⟨-, hfirst⟩ := octetString_decode_iff skipped payload content
    rw [hfirst] at h
    split at h
    · have hshort := hlater h
      rw [List.length_drop] at hshort
      omega
    · cases h

/-- From nothing, a tally has the number of messages and of octets, as words. -/
theorem Tally.recordAll_empty (lengths : List Nat) :
    recordAll {} lengths = { count := .ofNat lengths.length, bytes := .ofNat lengths.sum } := by
  have hcount := count_recordAll {} lengths
  have hbytes := bytes_recordAll {} lengths
  rw [UInt64.zero_add] at hcount hbytes
  rw [← hcount, ← hbytes]

namespace Pipeline

/-- What is sent is what the encoder writes of the value that the payload decodes to. -/
theorem exists_value_of_sent? {codec : Codec} {isFirst : Bool} {verdict : Option String}
    {inbound : InboundMessage} {payload : Octets}
    (h : (fate codec isFirst verdict inbound).sent? = some payload) :
    ∃ value, codec.decode inbound.content isFirst = some value ∧
      codec.write value = .ok payload := by
  unfold fate at h
  split at h
  · cases h
  · split at h
    · cases h
    · rename_i value hdecode
      split at h
      · cases h
      · rename_i written hwrite
        obtain rfl := Option.some.inj h
        exact ⟨value, hdecode, hwrite⟩
      · cases h

/-- **An element that is sent** has 29 octets for its tags and two for each octet of a content that
is shorter than the message. -/
theorem length_of_sent? {skipped : UInt64} {isFirst : Bool} {verdict : Option String}
    {inbound : InboundMessage} {payload : Octets}
    (h : (fate (.octetString skipped) isFirst verdict inbound).sent? = some payload) :
    ∃ content : Octets, payload.length = 29 + 2 * content.length ∧
      content.length < inbound.length := by
  obtain ⟨content, hdecode, hwrite⟩ := exists_value_of_sent? h
  obtain ⟨hencode, -⟩ := Codec.write_eq_ok_iff.1 hwrite
  have hpayload : Xer.element content = payload := congrArg Encoding.buffer hencode
  refine ⟨content, ?_, Codec.length_lt_of_octetString_decode hdecode⟩
  rw [← hpayload]
  exact Xer.length_element content

/-- The lengths of what was sent are bounded by those of what was received. -/
structure OutputBound (received sent : List Nat) : Prop where
  least : 29 * sent.length ≤ sent.sum
  most : sent.sum ≤ 2 * received.sum + 27 * sent.length
  count : sent.length ≤ received.length

/-- Nothing is sent of nothing. -/
theorem OutputBound.nil (received : List Nat) : OutputBound received [] :=
  ⟨Nat.le_refl _, Nat.zero_le _, Nat.zero_le _⟩

/-- The bound holds of what two runs of steps send if it holds of each. -/
theorem OutputBound.append {received sent received' sent' : List Nat}
    (h : OutputBound received sent) (h' : OutputBound received' sent') :
    OutputBound (received ++ received') (sent ++ sent') := by
  obtain ⟨hleast, hmost, hcount⟩ := h
  obtain ⟨hleast', hmost', hcount'⟩ := h'
  constructor <;> simp only [List.length_append, List.sum_append] <;> omega

variable (skipped : UInt64) (plan : Plan) (verdicts : Verdicts)

/-- **A step sends no more than its message allows.** -/
theorem outputBound_step (state : State) (consumption : Consumption) :
    let trace := (step (.octetString skipped) plan verdicts state consumption).trace
    OutputBound (trace.received.map (·.length)) (trace.produced.map (·.payload.length)) := by
  intro trace
  rw [received_step, produced_step, List.map_map]
  cases hmessage : consumption.delivery.message? with
  | none => exact .nil _
  | some inbound =>
    rw [Option.bind_some]
    cases hsent : (fate (.octetString skipped) state.isFirst (verdicts state.attempts)
        inbound).sent? with
    | none => exact .nil _
    | some payload =>
      obtain ⟨content, hpayload, hcontent⟩ := length_of_sent? hsent
      have hlength : (plan.outbound payload).payload.length = 29 + 2 * content.length := hpayload
      simp only [Option.toList_some, List.map_cons, List.map_nil, Function.comp_apply, hlength]
      constructor <;> simp only [List.length_singleton, List.sum_singleton] <;> omega

/-- **Steps send no more than their messages allow.** -/
theorem outputBound_steps (state : State) (consumptions : List Consumption) :
    let trace := (steps (.octetString skipped) plan verdicts state consumptions).trace
    OutputBound (trace.received.map (·.length)) (trace.produced.map (·.payload.length)) := by
  induction consumptions generalizing state with
  | nil => exact .nil _
  | cons consumption rest ih =>
    have hfirst := outputBound_step skipped plan verdicts state consumption
    have hrest := ih (step (.octetString skipped) plan verdicts state consumption).state
    simp only [steps, Trace.received_append, Trace.produced_append, List.map_append]
    exact hfirst.append hrest

/-- **The output is bounded by the input.**

After any number of steps, whatever octets are skipped, the elements sent have 29 octets each at
least, and together at most two for each octet received and 27 more for each element; and there are
no more of them than messages.  The counters have these numbers as words, and show the same bounds as
long as the numbers fit.  A payload that decodes has an octet for each fragment and one or two for
the last determinant besides its content, and a content of 16384 octets at least for each
fragment. -/
theorem steps_outputBound (skipped : UInt64) (plan : Plan) (verdicts : Verdicts) (running : Bool)
    (consumptions : List Consumption) :
    let reached := steps (.octetString skipped) plan verdicts { running } consumptions
    let counters := reached.state.counters
    let received := (messages consumptions).map fun inbound => (inbound.payload.getD []).length
    let sent := reached.trace.produced.map (·.payload.length)
    (29 * sent.length ≤ sent.sum ∧ sent.sum ≤ 2 * received.sum + 27 * sent.length ∧
        sent.length ≤ received.length) ∧
      (counters.received = { count := .ofNat received.length, bytes := .ofNat received.sum } ∧
        counters.sent = { count := .ofNat sent.length, bytes := .ofNat sent.sum }) ∧
      (received.length < 2 ^ 64 → received.sum < 2 ^ 64 → sent.sum < 2 ^ 64 →
        29 * counters.sent.count.toNat ≤ counters.sent.bytes.toNat ∧
          counters.sent.bytes.toNat ≤
            2 * counters.received.bytes.toNat + 27 * counters.sent.count.toNat ∧
          counters.sent.count.toNat ≤ counters.received.count.toNat) ∧
      ∀ input content, Uper.decode input = some content →
        (input.length = content.length + Uper.fragments input + 1 ∨
            input.length = content.length + Uper.fragments input + 2) ∧
          16384 * Uper.fragments input ≤ content.length ∧ content.length < input.length := by
  intro reached counters received sent
  have hreceived : reached.trace.received.map (·.length) = received :=
    congrArg (List.map _) (received_steps ..)
  have haccount : counters = plan.account {} reached.trace :=
    counters_steps (.octetString skipped) plan verdicts { running } consumptions
  have hbound : OutputBound received sent := by
    rw [← hreceived]
    exact outputBound_steps skipped plan verdicts { running } consumptions
  have hreceivedTally : counters.received = .recordAll {} received := by
    rw [haccount, Plan.account, hreceived]
  have hsentTally : counters.sent = .recordAll {} sent := by
    rw [haccount]
    rfl
  obtain ⟨hleast, hmost, hcount⟩ := hbound
  refine ⟨⟨hleast, hmost, hcount⟩, ⟨?_, ?_⟩, ?_, ?_⟩
  · rw [hreceivedTally, Tally.recordAll_empty]
  · rw [hsentTally, Tally.recordAll_empty]
  · intro hlength hsum hsentSum
    have hsentLength : sent.length < 2 ^ 64 := Nat.lt_of_le_of_lt hcount hlength
    obtain ⟨hreceivedCount, hreceivedBytes⟩ := Tally.toNat_recordAll hlength hsum
    obtain ⟨hsentCount, hsentBytes⟩ := Tally.toNat_recordAll hsentLength hsentSum
    rw [hreceivedTally, hsentTally, hreceivedCount, hreceivedBytes, hsentCount, hsentBytes]
    exact ⟨hleast, hmost, hcount⟩
  · intro input content hdecode
    obtain ⟨hlength, hfragments⟩ := (Uper.decode_eq_some_iff.1 hdecode).length_eq
    exact ⟨hlength, hfragments, Uper.length_lt_of_decode hdecode⟩

/-- Both bounds are met: the least by an element without content, and the most by a payload of two
octets. -/
example :
    let plan : Plan :=
      { inputTopic := "in", outputTopic := "out", partition := none, consumeTimeoutMs := 500,
        exitOnEof := false, partitionCount := 1 }
    let sent (payload : Octets) : Tally :=
      (step (.octetString 0) plan (fun _ => none) {}
        { delivery := .message { topic := "in", payload := some payload } }).state.counters.sent
    (sent [0]).bytes = 29 ∧ (sent [1, 0xFF]).bytes = 2 * 2 + 27 := by
  decide +kernel

end Pipeline
end OctetRelay
