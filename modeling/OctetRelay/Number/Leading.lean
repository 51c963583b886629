/-
# The number at the start of a text

A number may stand at the start of a text and be followed by anything.  Blank
characters and a sign may stand before it.

| integer | base |
| --- | --- |
| `0x` and digits | sixteen |
| `0b` and digits | two |
| `0` and digits | eight |
| digits | ten |

| measure | is |
| --- | --- |
| `inf` | infinite |
| `nan` | no number |
| `0x`, digits of base sixteen, `p` and an integer | the digits times a power of two |
| digits, `e` and an integer | the digits times a power of ten |

The digits of a measure may have a point among or beside them, and its exponent
may be missing.  What is behind `0x` or `0b` counts only if a digit is there.

Source: the numbers that a client reads at the start of a property;
`SPEC_FULL.md` 11, the properties passed on verbatim.
-/

import OctetRelay.Number.Rounded

namespace OctetRelay

/-- A number of the format, or what has a sign but is no number. -/
inductive Measure where
  | number (value : Binary64)
  | notANumber (isNegative : Bool)
  deriving DecidableEq, Repr

namespace Measure

/-- The measure in six digits. -/
def text : Measure → String
  | .number value => value.roundedText
  | .notANumber isNegative => Binary64.withSign isNegative "nan"

/-- Whether the measure is a number below `n`. -/
def isBelow (n : Nat) : Measure → Bool
  | .number value => !(Binary64.ofNat n).le value
  | .notANumber _ => false

/-- Whether the measure is a number above `n`. -/
def isAbove (n : Nat) : Measure → Bool
  | .number value => !value.le (Binary64.ofNat n)
  | .notANumber _ => false

/-- Whether the measure is a number that is at least `n`. -/
def isAtLeast (n : Nat) : Measure → Bool
  | .number value => (Binary64.ofNat n).le value
  | .notANumber _ => false

end Measure

namespace Leading

/-- The blank characters before a number, which are ASCII ones. -/
def isSpace (c : Char) : Bool :=
  c = ' ' || (9 ≤ c.toNat && c.toNat ≤ 13)

/-- The value of a digit in a base up to sixteen. -/
def digitValue? (base : Nat) (c : Char) : Option Nat :=
  let value :=
    if '0' ≤ c ∧ c ≤ '9' then c.toNat - 48
    else if 'a' ≤ c ∧ c ≤ 'f' then c.toNat - 87
    else if 'A' ≤ c ∧ c ≤ 'F' then c.toNat - 55
    else 16
  if value < base then some value else none

/-- Whether a character is a digit of a base. -/
def isDigit (base : Nat) (c : Char) : Bool := (digitValue? base c).isSome

/-- The number that digits spell. -/
def natural (base : Nat) (digits : List Char) : Nat :=
  digits.foldl (fun sum c => base * sum + (digitValue? base c).getD 0) 0

/-- The number that the digits at the start of a text spell, if there are any. -/
def natural? (base : Nat) (text : List Char) : Option Nat :=
  match text.takeWhile (isDigit base) with
  | [] => none
  | digits => some (natural base digits)

/-- Splits a text behind its sign: whether that is a minus, and what follows. -/
def splitSign : List Char → Bool × List Char
  | '-' :: rest => (true, rest)
  | '+' :: rest => (false, rest)
  | rest => (false, rest)

/-- The magnitude of the integer at the start of a text. -/
def magnitude? (text : List Char) : Option Nat :=
  match text with
  | '0' :: c :: rest =>
    if c = 'x' ∨ c = 'X' then some ((natural? 16 rest).getD 0)
    else if c = 'b' ∨ c = 'B' then some ((natural? 2 rest).getD 0)
    else natural? 8 text
  | _ => natural? 10 text

/-- The integer at the start of a text, brought into 64 bits and then cut down to 32. -/
def integer? (text : List Char) : Option Int :=
  let bound : Int := Nat.pow 2 63
  let cut (number : Int) : Int := (max (-bound) (min (bound - 1) number)).bmod (Nat.pow 2 32)
  let (isNegative, rest) := splitSign (text.dropWhile isSpace)
  (magnitude? rest).map fun n => cut (if isNegative then -n else n)

/-- The digits at the start of a text, how many of them are behind the point, and what follows. -/
def digits? (base : Nat) (text : List Char) : Option (List Char × Nat × List Char) :=
  let whole := text.takeWhile (isDigit base)
  let (part, rest) := match text.dropWhile (isDigit base) with
    | '.' :: rest => (rest.takeWhile (isDigit base), rest.dropWhile (isDigit base))
    | rest => ([], rest)
  if whole.isEmpty && part.isEmpty then none else some (whole ++ part, part.length, rest)

/-- The exponent behind its letter, and zero without one. -/
def exponent (letter : Char) : List Char → Int
  | [] => 0
  | c :: rest =>
    if c.toLower = letter then
      let (isNegative, digits) := splitSign rest
      let n : Int := (natural? 10 digits).getD 0
      if isNegative then -n else n
    else 0

/-- The nearest number of the format to `± n · 2 ^ e`.  Far away from the numbers that it has,
nothing but the sign is left. -/
def scaled (isNegative : Bool) (n : Nat) (e : Int) : Binary64 :=
  if n = 0 ∨ n.log2 + e < -1200 then .finite isNegative 0 0
  else if 1200 < n.log2 + e then .infinite isNegative
  else
    let (num, den) := Binary64.quotient n e
    .ofQuotient isNegative num den

/-- The number at the start of a text that has no sign and starts with a digit or a point. -/
def unsigned? (isNegative : Bool) (text : List Char) : Option Binary64 :=
  let sixteen : Option Binary64 := match text with
    | '0' :: x :: rest =>
      if x = 'x' ∨ x = 'X' then
        (digits? 16 rest).map fun (digits, places, rest) =>
          scaled isNegative (natural 16 digits) (exponent 'p' rest - 4 * places)
      else none
    | _ => none
  sixteen.or <| (digits? 10 text).map fun (digits, places, rest) =>
    .ofDecimal isNegative (natural 10 digits) (digits.dropWhile (· == '0')).length
      (exponent 'e' rest - places)

/-- The measure at the start of a text. -/
def measure? (text : List Char) : Option Measure :=
  let (isNegative, rest) := splitSign (text.dropWhile isSpace)
  match (rest.take 3).map Char.toLower with
  | ['i', 'n', 'f'] => some (.number (.infinite isNegative))
  | ['n', 'a', 'n'] => some (.notANumber isNegative)
  | _ => (unsigned? isNegative rest).map .number

end Leading
end OctetRelay
