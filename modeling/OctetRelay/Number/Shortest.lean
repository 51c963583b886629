/-
# The shortest decimal that reads back

A number is shown with the fewest digits that still stand for it alone, and of
those with the ones nearest to it; between two that are equally near a rule for
ties decides.  Which decimals stand for `f · 2 ^ q` is
decided in natural numbers: those between the halfway points to its two
neighbours, the points themselves included where `f` is even.  On the grid of
`n` digits only the two neighbours of the number need to be tried.

Source: the numbers in the reasons of settings that do not load; `SPEC_FULL.md`
11, the merged sources.
-/

import OctetRelay.Number.Binary64

namespace OctetRelay
namespace Binary64

/-- Which of two neighbouring decimals is taken where both are equally near. -/
inductive Tie where
  | upper
  | even
  deriving DecidableEq, Repr

/-- The decimals that stand for a number, as bounds over a common denominator. -/
structure Interval where
  low : Nat
  value : Nat
  high : Nat
  den : Nat
  isClosed : Bool

/-- The interval of a positive number. -/
def interval (f : Nat) (q : Int) : Interval :=
  let below := if f = Nat.pow 2 52 ∧ -1074 < q then 1 else 2
  let (factor, den) : Nat × Nat :=
    if 0 ≤ q then (Nat.pow 2 q.toNat, 4) else (1, 4 * Nat.pow 2 (-q).toNat)
  { low := (4 * f - below) * factor, value := 4 * f * factor, high := (4 * f + 2) * factor
    den, isClosed := f % 2 = 0 }

namespace Interval

/-- `10 ^ k` times the common denominator, with what multiplies the bounds to match. -/
def grid (i : Interval) (k : Int) : Nat × Nat :=
  if 0 ≤ k then (i.den * Nat.pow 10 k.toNat, 1) else (i.den, Nat.pow 10 (-k).toNat)

/-- Whether `digits · 10 ^ k` stands for the number. -/
def holds (i : Interval) (digits : Nat) (k : Int) : Bool :=
  let (unit, factor) := i.grid k
  let point := digits * unit
  if i.isClosed then i.low * factor ≤ point && point ≤ i.high * factor
  else i.low * factor < point && point < i.high * factor

/-- The point of the grid `10 ^ k` that stands for the number, the nearer of two. -/
def nearest? (i : Interval) (tie : Tie) (k : Int) : Option Nat :=
  let (unit, factor) := i.grid k
  let floor := i.value * factor / unit
  match i.holds floor k, i.holds (floor + 1) k with
  | false, false => none
  | true, false => some floor
  | false, true => some (floor + 1)
  | true, true =>
    let double := 2 * (i.value * factor % unit)
    if double < unit then some floor
    else if double = unit ∧ tie = .even ∧ floor % 2 = 0 then some floor
    else some (floor + 1)

/-- The power of ten just above the number, sought from `p` upwards. -/
def magnitude (i : Interval) : Nat → Int → Int
  | 0, p => p
  | fuel + 1, p =>
    let (unit, factor) := i.grid p
    if i.value * factor < unit then p else magnitude i fuel (p + 1)

/-- The first grid with a point that stands for the number, from `10 ^ (p - n)` downwards. -/
def shortest (i : Interval) (tie : Tie) (p : Int) : Nat → Nat → Nat × Int
  | 0, n => ((i.nearest? tie (p - n)).getD 0, p - n)
  | fuel + 1, n =>
    match i.nearest? tie (p - n) with
    | some digits => (digits, p - n)
    | none => shortest i tie p fuel (n + 1)

end Interval

/-- The digits of a positive number and the power of ten they count. -/
def shortestDecimal (tie : Tie) (f : Nat) (q : Int) : Nat × Int :=
  let i := interval f q
  i.shortest tie (i.magnitude 640 (-325)) 17 0

/-- `digits · 10 ^ k` without an exponent. -/
def positional (digits : Nat) (k : Int) : String :=
  let numeral := Nat.toDigits 10 digits
  if 0 ≤ k then String.ofList (numeral ++ List.replicate k.toNat '0')
  else
    let places := (-k).toNat
    let padded := List.replicate (places + 1 - numeral.length) '0' ++ numeral
    let split := padded.length - places
    String.ofList (padded.take split ++ '.' :: padded.drop split)

/-- A text with the sign of a number below zero. -/
def withSign (isNegative : Bool) (unsigned : String) : String :=
  if isNegative then "-" ++ unsigned else unsigned

/-- The number without an exponent and without a fraction of zero, the upper one of two equally near
decimals. -/
def text : Binary64 → String
  | .infinite isNegative => withSign isNegative "inf"
  | .finite isNegative f q =>
    withSign isNegative <| if f = 0 then "0" else
      let (digits, k) := shortestDecimal .upper f q
      positional digits k

/-- Digits with a point behind the first one, if there are others. -/
def pointed : List Char → List Char
  | [] => []
  | [digit] => [digit]
  | digit :: rest => digit :: '.' :: rest

/-- `digits · 10 ^ k` with a fraction, or with an exponent behind `e` and a sign if its first digit
counts less than `10 ^ (-5)` or more than `10 ^ 15`. -/
def scientific (digits : Nat) (k : Int) : String :=
  let numeral := Nat.toDigits 10 digits
  let e : Int := k + numeral.length - 1
  if e < -5 ∨ 15 < e then
    String.ofList (pointed numeral) ++ (if e < 0 then "e-" else "e+") ++ toString e.natAbs
  else if k < 0 then positional digits k
  else positional digits k ++ ".0"

/-- The number with a fraction or an exponent, the even one of two equally near decimals. -/
def documentText : Binary64 → String
  | .infinite isNegative => withSign isNegative "inf"
  | .finite isNegative f q =>
    withSign isNegative <| if f = 0 then "0.0" else
      let (digits, k) := shortestDecimal .even f q
      scientific digits k

end Binary64
end OctetRelay
