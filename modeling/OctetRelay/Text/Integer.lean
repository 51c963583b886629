/-
# Decimal integers of a bounded range

A decimal integer is an optional sign and one or more ASCII digits; a range
without negative numbers has no minus sign.  Digits are read from the left, and
the first one that is no digit or that takes the magnitude past its bound
decides the fault.

Source: `parse_number`; `SPEC_FULL.md` 9, invalid numbers are fatal at startup.
-/

namespace OctetRelay
namespace Text

/-- The integers a reader accepts: from `-below` to `above`. -/
structure IntegerRange where
  below : Nat
  above : Nat
  deriving DecidableEq, Repr

namespace IntegerRange

/-- The integers of 32 bits with a sign. -/
def signed32 : IntegerRange := ⟨Nat.pow 2 31, Nat.pow 2 31 - 1⟩

/-- The integers of 64 bits with a sign. -/
def signed64 : IntegerRange := ⟨Nat.pow 2 63, Nat.pow 2 63 - 1⟩

/-- The integers of 32 bits without a sign. -/
def unsigned32 : IntegerRange := ⟨0, Nat.pow 2 32 - 1⟩

/-- The integers of 64 bits without a sign. -/
def unsigned64 : IntegerRange := ⟨0, Nat.pow 2 64 - 1⟩

/-- Whether an integer lies in the range. -/
def contains (range : IntegerRange) (value : Int) : Bool :=
  -(range.below : Int) ≤ value && value ≤ range.above

end IntegerRange

/-- Why a text is no integer of a range. -/
inductive IntegerFault where
  | empty
  | invalidDigit
  | tooLarge
  | tooSmall
  deriving DecidableEq, Repr

/-- The text of a fault. -/
def IntegerFault.message : IntegerFault → String
  | .empty => "cannot parse integer from empty string"
  | .invalidDigit => "invalid digit found in string"
  | .tooLarge => "number too large to fit in target type"
  | .tooSmall => "number too small to fit in target type"

/-- The value of an ASCII digit. -/
def digitValue? (c : Char) : Option Nat :=
  if '0' ≤ c ∧ c ≤ '9' then some (c.toNat - 48) else none

/-- Reads digits after the magnitude `sum`; `excess` is the fault of passing the bound. -/
def readDigits (bound : Nat) (excess : IntegerFault) (sum : Nat) :
    List Char → Except IntegerFault Nat
  | [] => .ok sum
  | c :: rest =>
    match digitValue? c with
    | none => .error .invalidDigit
    | some d =>
      if bound < 10 * sum + d then .error excess
      else readDigits bound excess (10 * sum + d) rest

/-- Reads one or more digits. -/
def readMagnitude (bound : Nat) (excess : IntegerFault) : List Char → Except IntegerFault Nat
  | [] => .error .invalidDigit
  | digits => readDigits bound excess 0 digits

/-- Reads a decimal integer of a range. -/
def readInteger (range : IntegerRange) : List Char → Except IntegerFault Int
  | [] => .error .empty
  | '+' :: digits => (readMagnitude range.above .tooLarge digits).map fun n => (n : Int)
  | '-' :: digits =>
    if range.below = 0 then .error .invalidDigit
    else (readMagnitude range.below .tooSmall digits).map fun n => -(n : Int)
  | digits => (readDigits range.above .tooLarge 0 digits).map fun n => (n : Int)

end Text
end OctetRelay
