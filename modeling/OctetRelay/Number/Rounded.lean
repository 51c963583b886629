/-
# Numbers of six digits

A number is shown with six decimal digits, a half rounded to the even neighbour,
and without the zeros at the end of a fraction.  It has an exponent of at least
two digits if its first digit counts less than `10 ^ (-4)` or more than
`10 ^ 5`.

Source: the numbers that a client prints of its properties; `SPEC_FULL.md` 11,
the properties passed on verbatim.
-/

import OctetRelay.Number.Shortest

namespace OctetRelay
namespace Binary64

/-- The six digits nearest to a positive number, and the power of ten that the first one counts. -/
def sixDigits (f : Nat) (q : Int) : Nat × Int :=
  let i := interval f q
  let p := i.magnitude 640 (-325)
  let (unit, factor) := i.grid (p - 6)
  let digits := roundQuotient (i.value * factor) unit
  if digits = Nat.pow 10 6 then (Nat.pow 10 5, p) else (digits, p - 1)

/-- Digits without the zeros at their end. -/
def withoutEndZeros (digits : List Char) : List Char :=
  (digits.reverse.dropWhile (· == '0')).reverse

/-- Digits of which the first one counts `10 ^ e`, without an exponent. -/
def placed (digits : List Char) (e : Int) : List Char :=
  if e < 0 then '0' :: '.' :: (List.replicate (e.natAbs - 1) '0' ++ digits)
  else
    let whole := e.toNat + 1
    let ahead := digits.take whole ++ List.replicate (whole - digits.length) '0'
    if digits.length ≤ whole then ahead else ahead ++ '.' :: digits.drop whole

/-- An exponent: its sign and two or more digits. -/
def signedExponent (e : Int) : List Char :=
  let digits := Nat.toDigits 10 e.natAbs
  (if e < 0 then '-' else '+') :: (List.replicate (2 - digits.length) '0' ++ digits)

/-- The number in six digits. -/
def roundedText : Binary64 → String
  | .infinite isNegative => withSign isNegative "inf"
  | .finite isNegative f q =>
    withSign isNegative <| String.ofList <| if f = 0 then ['0'] else
      let (digits, e) := sixDigits f q
      let numeral := withoutEndZeros (Nat.toDigits 10 digits)
      if -4 ≤ e ∧ e < 6 then placed numeral e
      else pointed numeral ++ 'e' :: signedExponent e

end Binary64
end OctetRelay
