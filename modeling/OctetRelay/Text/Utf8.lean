/-
# Reading UTF-8

A character takes one to four octets.  The first one says how many follow and
bounds the second, so that overlong forms, surrogates and code points past
U+10FFFF have no spelling.  Where no character can be read, the octets up to
the first one that does not fit (at least one) are damage: the strict reader
refuses them, the lenient one shows them as a single U+FFFD.

Source: keys in the events of `handle_message`; `SPEC_FULL.md` 14, the trace
detail of a message.
-/

import OctetRelay.Octets

namespace OctetRelay
namespace Text

/-- What the first octet of a character announces: its part of the code point, and the closed
interval of each octet that must follow. -/
structure Lead where
  bits : Nat
  tail : List (Nat × Nat)

/-- The announcement of a first octet; `none` for one that starts no character. -/
def lead? (first : UInt8) : Option Lead :=
  let n := first.toNat
  if n < 0x80 then some ⟨n, []⟩
  else if n < 0xC2 then none
  else if n < 0xE0 then some ⟨n - 0xC0, [(0x80, 0xBF)]⟩
  else if n = 0xE0 then some ⟨0, [(0xA0, 0xBF), (0x80, 0xBF)]⟩
  else if n = 0xED then some ⟨0xD, [(0x80, 0x9F), (0x80, 0xBF)]⟩
  else if n < 0xF0 then some ⟨n - 0xE0, [(0x80, 0xBF), (0x80, 0xBF)]⟩
  else if n = 0xF0 then some ⟨0, [(0x90, 0xBF), (0x80, 0xBF), (0x80, 0xBF)]⟩
  else if n < 0xF4 then some ⟨n - 0xF0, [(0x80, 0xBF), (0x80, 0xBF), (0x80, 0xBF)]⟩
  else if n = 0xF4 then some ⟨4, [(0x80, 0x8F), (0x80, 0xBF), (0x80, 0xBF)]⟩
  else none

/-- Reads the octets that must follow: the code point, if all are there, and the rest. -/
def readTail (point : Nat) : List (Nat × Nat) → Octets → Option Nat × Octets
  | [], input => (some point, input)
  | _ :: _, [] => (none, [])
  | (low, high) :: tail, octet :: rest =>
    if low ≤ octet.toNat ∧ octet.toNat ≤ high then
      readTail (64 * point + (octet.toNat - 0x80)) tail rest
    else (none, octet :: rest)

/-- Reading on never adds octets. -/
theorem length_readTail_le (point : Nat) (tail : List (Nat × Nat)) (input : Octets) :
    (readTail point tail input).2.length ≤ input.length := by
  induction tail generalizing point input with
  | nil => simp [readTail]
  | cons interval tail ih =>
    cases input with
    | nil => simp [readTail]
    | cons octet rest =>
      rw [readTail]
      split
      · exact Nat.le_succ_of_le (ih _ rest)
      · exact Nat.le_refl _

/-- The characters of a string of octets, `none` where octets are damaged. -/
def readUtf8 : Octets → List (Option Char)
  | [] => []
  | first :: rest =>
    match lead? first with
    | none => none :: readUtf8 rest
    | some lead =>
      (readTail lead.bits lead.tail rest).1.map Char.ofNat
        :: readUtf8 (readTail lead.bits lead.tail rest).2
termination_by input => input.length
decreasing_by
  · simp
  · have := length_readTail_le lead.bits lead.tail rest
    simp; omega

/-- The text, with U+FFFD for each damaged run. -/
def decodeLenient (input : Octets) : String :=
  String.ofList ((readUtf8 input).map (·.getD '\uFFFD'))

/-- The text, if no octet is damaged. -/
def decodeStrict? (input : Octets) : Option String :=
  ((readUtf8 input).mapM id).map String.ofList

end Text
end OctetRelay
