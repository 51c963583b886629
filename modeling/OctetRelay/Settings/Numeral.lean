/-
# Numerals of settings documents

A settings document spells a number as an optional minus sign, digits, and then
perhaps a fraction and an exponent.  A numeral without these two that fits into
64 bits is a whole number.

Every other numeral stands for a number that is rounded more than once: its
digits, as many of them as fit into 64 bits, are one number and the power of ten
that they count is another, and their product or quotient is rounded again.

Source: the numbers of a `PipelineConfig` that is read as a document;
`SPEC_FULL.md` 11.
-/

import OctetRelay.Settings.Value

namespace OctetRelay
namespace Numeral

/-- A power of ten, rounded. -/
def power (n : Nat) : Binary64 := .ofNat (Nat.pow 10 n)

/-- `x · 10 ^ e`.  Below the range of the powers it takes more than one division. -/
def shift : Nat → Binary64 → Int → Binary64
  | 0, x, _ => x
  | fuel + 1, x, e =>
    if 308 < e then .infinite false
    else if 0 ≤ e then x.mul (power e.toNat)
    else if -308 ≤ e then x.div (power e.natAbs)
    else shift fuel (x.div (power 308)) (e + 308)

/-- `digits · 10 ^ e` for digits of 64 bits: two divisions leave nothing of them. -/
def approximate (digits : Nat) (e : Int) : Binary64 :=
  if digits = 0 then .finite false 0 0 else shift 4 (.ofNat digits) e

/-- The number with a sign. -/
def signed (isNegative : Bool) : Binary64 → Binary64
  | .finite _ f q => .finite isNegative f q
  | .infinite _ => .infinite isNegative

/-- Takes up digits as long as their number has 64 bits: the number and the digits left over. -/
def absorb (sum : Nat) : List Char → Nat × List Char
  | [] => (sum, [])
  | c :: rest =>
    let next := 10 * sum + (c.toNat - 48)
    if next < Nat.pow 2 64 then absorb next rest else (sum, c :: rest)

/-- The digits of a numeral: before the point, behind it, and what follows them. -/
structure Parts where
  isNegative : Bool
  whole : List Char
  fraction : List Char
  exponent : List Char

/-- Splits a numeral at its sign, its point and its exponent. -/
def Parts.of (numeral : List Char) : Parts :=
  let (isNegative, unsigned) := match numeral with
    | '-' :: rest => (true, rest)
    | rest => (false, rest)
  let whole := unsigned.takeWhile Char.isDigit
  match unsigned.dropWhile Char.isDigit with
  | '.' :: rest =>
    { isNegative, whole, fraction := rest.takeWhile Char.isDigit
      exponent := rest.dropWhile Char.isDigit }
  | rest => { isNegative, whole, fraction := [], exponent := rest }

/-- The number of a numeral that is no whole number. -/
def Parts.rounded (parts : Parts) : Binary64 :=
  let (sum, dropped) := absorb 0 parts.whole
  let (sum, unused) := absorb sum parts.fraction
  let places : Int := (parts.fraction.length : Int) - unused.length
  let exponent := (Binary64.readExponent? parts.exponent).getD 0
  signed parts.isNegative (approximate sum (dropped.length - places + exponent))

/-- The value of a numeral. -/
def scalar (numeral : List Char) : Scalar :=
  let parts := Parts.of numeral
  let (sum, dropped) := absorb 0 parts.whole
  if parts.fraction.isEmpty && parts.exponent.isEmpty && dropped.isEmpty then
    if parts.isNegative then
      if sum = 0 ∨ Nat.pow 2 63 < sum then .binary parts.rounded
      else .signed (.ofInt (-(sum : Int)))
    else .unsigned (.ofNat sum)
  else .binary parts.rounded

end Numeral
end OctetRelay
