/-
# The unaligned packed encoding of an `OCTET STRING`

An encoding is a chain of length determinants, each followed by its octets.

| determinant | announces |
| --- | --- |
| `0nnnnnnn` | the last `n < 128` octets |
| `10nnnnnn nnnnnnnn` | the last `n < 16384` octets |
| `11mmmmmm`, `1 ≤ m ≤ 4` | a fragment of `16384 m` octets, then another determinant |

Any other first octet is refused, and so are octets missing after a determinant
or left over after the last one.

Source: `decode_uper`; `SPEC_FULL.md` 14, the default codec.
-/

import OctetRelay.Octets

namespace OctetRelay
namespace Uper

/-- Fragments are multiples of 16 Ki octets. -/
def fragmentUnit : Nat := 16384

/-- What a length determinant announces. -/
inductive Length where
  /-- So many octets follow and end the encoding. -/
  | last (count : Nat)
  /-- So many fragment units follow, and then another determinant. -/
  | fragment (units : Nat)
  deriving DecidableEq, Repr

/-- Splits the length determinant off the front of an encoding. -/
def readLength : Octets → Option (Length × Octets)
  | [] => none
  | first :: rest =>
    let n := first.toNat
    if n < 128 then some (.last n, rest)
    else if n < 192 then
      match rest with
      | [] => none
      | second :: rest => some (.last (256 * (n - 128) + second.toNat), rest)
    else if 193 ≤ n ∧ n ≤ 196 then some (.fragment (n - 192), rest)
    else none

/-- A determinant takes up at least one octet. -/
theorem length_lt_of_readLength {input rest : Octets} {length : Length}
    (h : readLength input = some (length, rest)) : rest.length < input.length := by
  cases input with
  | nil => simp [readLength] at h
  | cons first tail =>
    simp only [readLength] at h
    split at h
    · cases h; simp
    · split at h
      · cases tail with
        | nil => simp at h
        | cons second tail => cases h; simp only [List.length_cons]; omega
      · split at h
        · cases h; simp
        · simp at h

/-- The content of a complete encoding. -/
def decode (input : Octets) : Option Octets :=
  match h : readLength input with
  | none => none
  | some (.last count, rest) => if rest.length = count then some rest else none
  | some (.fragment units, rest) =>
    have := length_lt_of_readLength h
    if rest.length < units * fragmentUnit then none
    else (decode (rest.drop (units * fragmentUnit))).map (rest.take (units * fragmentUnit) ++ ·)
termination_by input.length
decreasing_by
  simp only [List.length_drop]; omega

/-- The canonical encoding: the largest fragments while a whole unit remains, then the rest
behind the shortest determinant that holds its length. -/
def encode (content : Octets) : Octets :=
  let count := content.length
  if fragmentUnit ≤ count then
    let units := min 4 (count / fragmentUnit)
    UInt8.ofNat (192 + units) :: (content.take (units * fragmentUnit)
      ++ encode (content.drop (units * fragmentUnit)))
  else if count < 128 then UInt8.ofNat count :: content
  else UInt8.ofNat (128 + count / 256) :: UInt8.ofNat (count % 256) :: content
termination_by content.length
decreasing_by
  simp only [List.length_drop, fragmentUnit] at *
  have : 1 ≤ min 4 (content.length / 16384) := by omega
  omega

end Uper
end OctetRelay
