/-
# Transcoding one payload

A payload is decoded and its encoding appended to a buffer.  Either something
was appended, or the buffer is cut back to the length it had; the first-block
flag falls with the first payload that decodes, whatever its encoder says.

Source: `transcode`; `SPEC_FULL.md` 4.3, Decode/Encode Bridge.
-/

import OctetRelay.Codec

namespace OctetRelay

/-- Why one payload could not be transcoded. -/
inductive BridgeError where
  /-- The payload is no encoding of the message type. -/
  | decodeFailed (length : Nat)
  /-- The payload decoded but could not be written as XML. -/
  | encodeFailed (length : Nat) (reason : String)
  deriving DecidableEq, Repr

/-- The text of a transcoding failure. -/
def BridgeError.message : BridgeError → String
  | .decodeFailed length => s!"failed to decode {length} byte payload"
  | .encodeFailed length reason => s!"failed to encode decoded {length} byte payload: {reason}"

/-- The state after one payload: the number of octets appended or the failure, the first-block
flag and the buffer. -/
structure Transcoded where
  result : Except BridgeError Nat
  isFirst : Bool
  buffer : Octets

/-- Decodes a payload and appends its encoding to the buffer. -/
def transcode (codec : Codec) (payload : Octets) (isFirst : Bool) (buffer : Octets) : Transcoded :=
  match codec.decode payload isFirst with
  | none => { result := .error (.decodeFailed payload.length), isFirst, buffer }
  | some value =>
    let encoding := codec.encode value buffer
    let start := buffer.length
    let refuse (reason : String) : Transcoded :=
      { result := .error (.encodeFailed payload.length reason)
        isFirst := false
        buffer := encoding.buffer.take start }
    match encoding.failure with
    | some error => refuse error.message
    | none =>
      if start < encoding.buffer.length then
        { result := .ok (encoding.buffer.length - start)
          isFirst := false
          buffer := encoding.buffer }
      else refuse "encoder produced no output"

end OctetRelay
