/-
# Codecs

A codec pairs a decoder for inbound payloads with an encoder that writes a
decoded value at the end of a buffer.  The encoder is trusted with the whole
buffer: what it leaves there is part of its answer, also when it fails.

`octetString` is the codec of the ASN.1 type `OCTET STRING`.

Source: `Codec`, `CodecError` and `OctetStringCodec`; `SPEC_FULL.md` 6, External
Interfaces.
-/

import OctetRelay.Uper
import OctetRelay.Xer

namespace OctetRelay

/-- Why an encoder gave up. -/
structure CodecError where
  reason : String
  deriving DecidableEq, Repr

/-- The text of an encoder failure. -/
def CodecError.message (error : CodecError) : String :=
  "XER encoding failed: " ++ error.reason

/-- What an encoder did: the buffer it left, and how it ended. -/
structure Encoding where
  buffer : Octets
  failure : Option CodecError := none

/-- A message set's decoder paired with its encoder. -/
structure Codec where
  /-- The in-memory form of one decoded message. -/
  Decoded : Type
  /-- Decodes one payload; the flag is set until a payload has decoded. -/
  decode : Octets → Bool → Option Decoded
  /-- Writes a decoded value into a buffer that may already hold something. -/
  encode : Decoded → Octets → Encoding

namespace Codec

/-- The payload without its first `count` octets, if it has that many. -/
def skip (count : Nat) (payload : Octets) : Option Octets :=
  if count ≤ payload.length then some (payload.drop count) else none

/-- The codec of `OCTET STRING`: packed in, XML out.  The first `skipped` octets of the first
block of a stream are not part of its encoding. -/
def octetString (skipped : UInt64) : Codec where
  Decoded := Octets
  decode payload isFirst :=
    if isFirst then (skip skipped.toNat payload).bind Uper.decode else Uper.decode payload
  encode content buffer := { buffer := buffer ++ Xer.element content }

end Codec
end OctetRelay
