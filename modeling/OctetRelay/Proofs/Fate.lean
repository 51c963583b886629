/-
# What becomes of a message

A step empties the buffer before it handles what it consumed, so a message is
always transcoded into an empty buffer (`transcode_nil`) and meets one of five
fates.  `handleMessage_eq_settle` says that its fate decides all that handling
it does: the state it leaves and the effects it has.

| fate | decoded | offered | sent | logged as lost |
| --- | --- | --- | --- | --- |
| `empty` | | | | |
| `undecodable` | | | | yes |
| `unencodable` | yes | | | yes |
| `refused` | yes | yes | | yes |
| `sent` | yes | yes | yes | |

Source: `handle_message`; `SPEC_FULL.md` 4.4, the dispatch of a message.
-/

import OctetRelay.Pipeline

namespace OctetRelay

/-- What an encoder makes of a value in an empty buffer: the octets that it leaves there, or why
there are none to send. -/
def Codec.write (codec : Codec) (value : codec.Decoded) : Except String Octets :=
  match codec.encode value [] with
  | { buffer := _, failure := some error } => .error error.message
  | { buffer := [], failure := none } => .error "encoder produced no output"
  | { buffer, failure := none } => .ok buffer

/-- An encoder writes just those octets that it leaves in an empty buffer without failing. -/
theorem Codec.write_eq_ok_iff {codec : Codec} {value : codec.Decoded} {payload : Octets} :
    codec.write value = .ok payload ↔
      codec.encode value [] = { buffer := payload } ∧ payload ≠ [] := by
  unfold Codec.write
  rcases codec.encode value [] with ⟨_ | ⟨octet, buffer⟩, _ | error⟩
  · simp only [reduceCtorEq, false_iff, not_and, ne_eq, Classical.not_not]
    exact fun h => (congrArg Encoding.buffer h).symm
  · simp
  · simp only [Except.ok.injEq, Encoding.mk.injEq, and_true, iff_self_and]
    rintro rfl
    exact List.cons_ne_nil octet buffer
  · simp

/-- **Transcoding into an empty buffer** leaves there what the encoder wrote, and nothing if it
failed. -/
theorem transcode_nil (codec : Codec) (payload : Octets) (isFirst : Bool) :
    transcode codec payload isFirst [] =
      match codec.decode payload isFirst with
      | none => { result := .error (.decodeFailed payload.length), isFirst, buffer := [] }
      | some value =>
        match codec.write value with
        | .error reason =>
          { result := .error (.encodeFailed payload.length reason), isFirst := false, buffer := [] }
        | .ok written => { result := .ok written.length, isFirst := false, buffer := written } := by
  unfold transcode
  cases codec.decode payload isFirst with
  | none => rfl
  | some value =>
    simp only [Codec.write]
    rcases codec.encode value [] with ⟨buffer, _ | error⟩
    · cases buffer <;> simp
    · simp

namespace Pipeline

/-- A payload on its way to the output topic. -/
def Plan.outbound (plan : Plan) (payload : Octets) : OutboundMessage :=
  { topic := plan.outputTopic, partition := plan.partition, payload }

/-- What becomes of a message. -/
inductive Fate where
  /-- There is nothing to transcode. -/
  | empty
  /-- The payload does not decode. -/
  | undecodable
  /-- The value cannot be written. -/
  | unencodable (reason : String)
  /-- The producer refuses the encoding. -/
  | refused (payload : Octets) (reason : String)
  /-- The producer accepts the encoding. -/
  | sent (payload : Octets)

/-- The fate of a message under a first-block flag and the producer's next verdict. -/
def fate (codec : Codec) (isFirst : Bool) (verdict : Option String) (message : InboundMessage) :
    Fate :=
  if message.isEmpty then .empty
  else
    match codec.decode message.content isFirst with
    | none => .undecodable
    | some value =>
      match codec.write value, verdict with
      | .error reason, _ => .unencodable reason
      | .ok payload, none => .sent payload
      | .ok payload, some reason => .refused payload reason

section Payload

variable (codec : Codec) {isFirst : Bool} (verdict : Option String) {message : InboundMessage}
  (hpayload : message.payload.getD [] ≠ [])

include hpayload

/-- A payload that does not decode is the end of its message. -/
theorem fate_of_not_decoded (hdecode : codec.decode (message.payload.getD []) isFirst = none) :
    fate codec isFirst verdict message = .undecodable := by
  have hempty : ¬ message.isEmpty := fun hempty => hpayload (List.isEmpty_iff.1 hempty)
  rw [fate, if_neg hempty, InboundMessage.content, hdecode]

/-- What becomes of a payload that decodes is up to the encoder and the producer. -/
theorem fate_of_decoded {value : codec.Decoded}
    (hdecode : codec.decode (message.payload.getD []) isFirst = some value) :
    fate codec isFirst verdict message =
      match codec.write value, verdict with
      | .error reason, _ => .unencodable reason
      | .ok payload, none => .sent payload
      | .ok payload, some reason => .refused payload reason := by
  have hempty : ¬ message.isEmpty := fun hempty => hpayload (List.isEmpty_iff.1 hempty)
  rw [fate, if_neg hempty, InboundMessage.content, hdecode]

end Payload

namespace Fate

/-- Whether the payload decodes. -/
def isDecoded : Fate → Bool
  | .empty | .undecodable => false
  | .unencodable _ | .refused _ _ | .sent _ => true

/-- The encoding that is offered to the producer, accepted or not. -/
def offered? : Fate → Option Octets
  | .refused payload _ | .sent payload => some payload
  | .empty | .undecodable | .unencodable _ => none

/-- The encoding that the producer accepts. -/
def sent? : Fate → Option Octets
  | .sent payload => some payload
  | .empty | .undecodable | .unencodable _ | .refused _ _ => none

/-- The effects of a fate, once the message has been read. -/
def effects (plan : Plan) (isFirst : Bool) (message : InboundMessage) : Fate → Trace
  | .empty => []
  | .undecodable => [.logged (.decodeFailed message isFirst)]
  | .unencodable reason => [.logged (.encodeFailed message reason)]
  | .refused payload reason =>
    [.offered (plan.outbound payload) (some reason),
     .logged (.produceFailed { topic := plan.outputTopic, length := payload.length, reason })]
  | .sent payload =>
    [.offered (plan.outbound payload) none,
     .logged (.messageProduced plan.outputTopic payload.length)]

/-- The counters after a fate. -/
def count (counters : Counters) (message : InboundMessage) (fate : Fate) : Counters :=
  let received := counters.recordReceived (.ofNat message.length)
  match fate.sent? with
  | some payload => received.recordSent (.ofNat payload.length)
  | none => received

/-- All that a message's fate does. -/
def settle (plan : Plan) (state : State) (message : InboundMessage) (fate : Fate) : Stepped :=
  { state :=
      { state with
        isFirst := state.isFirst && !fate.isDecoded
        buffer := fate.offered?.getD []
        counters := fate.count state.counters message
        attempts := state.attempts + fate.offered?.toList.length }
    trace := .logged (.messageRead message) :: fate.effects plan state.isFirst message }

end Fate

/-- **A message's fate decides what handling it does**, given that the buffer is empty. -/
theorem handleMessage_eq_settle (codec : Codec) (plan : Plan) (verdicts : Verdicts) (state : State)
    (message : InboundMessage) (hbuffer : state.buffer = []) :
    handleMessage codec plan verdicts state message =
      (fate codec state.isFirst (verdicts state.attempts) message).settle plan state message := by
  unfold handleMessage fate
  by_cases hempty : message.isEmpty
  · simp [hempty, Fate.settle, Fate.isDecoded, Fate.offered?, Fate.count, Fate.sent?, Fate.effects,
      hbuffer]
  · simp only [hempty, hbuffer, transcode_nil]
    cases codec.decode message.content state.isFirst with
    | none =>
      simp [Fate.settle, Fate.isDecoded, Fate.offered?, Fate.count, Fate.sent?, Fate.effects]
    | some value =>
      cases hwrite : codec.write value with
      | error reason =>
        simp [hwrite, Fate.settle, Fate.isDecoded, Fate.offered?, Fate.count, Fate.sent?,
          Fate.effects]
      | ok payload =>
        cases hverdict : verdicts state.attempts <;>
          simp [hwrite, hverdict, offer, Plan.outbound, Fate.settle, Fate.isDecoded, Fate.offered?,
            Fate.count, Fate.sent?, Fate.effects]

end Pipeline
end OctetRelay
