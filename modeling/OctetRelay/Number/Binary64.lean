/-
# Numbers of 53 binary digits

A number of the format is zero, `± f · 2 ^ q` with `f < 2 ^ 53` and
`-1074 ≤ q ≤ 971`, or infinite.  A decimal number stands for the nearest of
them, and for the one with an even `f` where two are equally near.

Source: the numbers that values of the environment and of documents may be;
`SPEC_FULL.md` 11, the merged sources.
-/

import OctetRelay.Text.Integer

namespace OctetRelay

/-- A number of the format; zero is `finite _ 0 _`. -/
inductive Binary64 where
  | finite (isNegative : Bool) (significand : Nat) (exponent : Int)
  | infinite (isNegative : Bool)
  deriving DecidableEq, Repr

namespace Binary64

/-- The quotient rounded to the nearest natural number, a half to the even neighbour. -/
def roundQuotient (num den : Nat) : Nat :=
  let q := num / den
  let r := num % den
  if 2 * r < den then q
  else if den < 2 * r then q + 1
  else if q % 2 = 0 then q else q + 1

/-- `num / den · 2 ^ (-q)` as a quotient of natural numbers. -/
def scale (num den : Nat) (q : Int) : Nat × Nat :=
  if 0 ≤ q then (num, den * Nat.pow 2 q.toNat) else (num * Nat.pow 2 (-q).toNat, den)

/-- The exponent at which a positive quotient has 53 binary digits, or the least one. -/
def exponentOf (num den : Nat) : Int :=
  let guess : Int := (num.log2 : Int) - den.log2 - 52
  let (n, d) := scale num den guess
  max (-1074) (if n / d < Nat.pow 2 52 then guess - 1 else guess)

/-- The nearest number of the format to a quotient. -/
def ofQuotient (isNegative : Bool) (num den : Nat) : Binary64 :=
  if num = 0 then .finite isNegative 0 0
  else
    let q := exponentOf num den
    let (n, d) := scale num den q
    let f := roundQuotient n d
    let (f, q) := if f = Nat.pow 2 53 then (Nat.pow 2 52, q + 1) else (f, q)
    if 971 < q then .infinite isNegative
    else if f = 0 then .finite isNegative 0 0
    else .finite isNegative f q

/-- The nearest number of the format to a natural number. -/
def ofNat (n : Nat) : Binary64 := ofQuotient false n 1

/-- Whether the number is below zero, or the zero below it. -/
def isNegative : Binary64 → Bool
  | .finite isNegative _ _ => isNegative
  | .infinite isNegative => isNegative

/-- `f · 2 ^ q` as a quotient of natural numbers. -/
def quotient (f : Nat) (q : Int) : Nat × Nat :=
  if 0 ≤ q then (f * Nat.pow 2 q.toNat, 1) else (f, Nat.pow 2 (-q).toNat)

/-- The product, rounded once. -/
def mul (x y : Binary64) : Binary64 :=
  match x, y with
  | .finite _ f q, .finite _ g r =>
    let (a, b) := quotient f q
    let (c, d) := quotient g r
    ofQuotient (x.isNegative != y.isNegative) (a * c) (b * d)
  | _, _ => .infinite (x.isNegative != y.isNegative)

/-- The quotient by a number other than zero, rounded once. -/
def div (x y : Binary64) : Binary64 :=
  match x, y with
  | .finite _ f q, .finite _ g r =>
    let (a, b) := quotient f q
    let (c, d) := quotient g r
    ofQuotient (x.isNegative != y.isNegative) (a * d) (b * c)
  | .infinite _, _ => .infinite (x.isNegative != y.isNegative)
  | .finite _ _ _, .infinite _ => .finite (x.isNegative != y.isNegative) 0 0

/-- Whether one number is not above another. -/
def le (x y : Binary64) : Bool :=
  match x, y with
  | .infinite isNegative, y => isNegative || y = .infinite false
  | .finite _ _ _, .infinite isNegative => !isNegative
  | .finite s f q, .finite t g r =>
    let (a, b) := quotient f q
    let (c, d) := quotient g r
    let low : Int := (if s then -1 else 1) * (a * d : Nat)
    let high : Int := (if t then -1 else 1) * (c * b : Nat)
    low ≤ high

/-- The nearest number of the format to `± digits · 10 ^ exponent`, where `digits` has `count`
digits.  Past 400 places on either side nothing but the sign is left of it. -/
def ofDecimal (isNegative : Bool) (digits count : Nat) (exponent : Int) : Binary64 :=
  if digits = 0 then .finite isNegative 0 0
  else if 400 < exponent + count then .infinite isNegative
  else if exponent + count < -400 then .finite isNegative 0 0
  else if 0 ≤ exponent then ofQuotient isNegative (digits * Nat.pow 10 exponent.toNat) 1
  else ofQuotient isNegative digits (Nat.pow 10 (-exponent).toNat)

/-- The value of a run of digits. -/
def digitsValue (digits : List Char) : Nat :=
  digits.foldl (fun sum c => 10 * sum + (c.toNat - 48)) 0

/-- Reads an exponent: nothing, or a letter, an optional sign and one or more digits. -/
def readExponent? : List Char → Option Int
  | [] => some 0
  | c :: rest =>
    if c = 'e' ∨ c = 'E' then
      let (isNegative, digits) := match rest with
        | '+' :: digits => (false, digits)
        | '-' :: digits => (true, digits)
        | digits => (false, digits)
      if digits.isEmpty || !digits.all Char.isDigit then none
      else
        let n : Int := digitsValue digits
        some (if isNegative then -n else n)
    else none

/-- Reads a number in positional or scientific form: an optional sign, digits with at most one
point among or beside them, and an optional exponent. -/
def ofText? (text : List Char) : Option Binary64 :=
  let (isNegative, body) := match text with
    | '+' :: rest => (false, rest)
    | '-' :: rest => (true, rest)
    | rest => (false, rest)
  let whole := body.takeWhile Char.isDigit
  let (part, rest) := match body.dropWhile Char.isDigit with
    | '.' :: rest => (rest.takeWhile Char.isDigit, rest.dropWhile Char.isDigit)
    | rest => ([], rest)
  if whole.isEmpty && part.isEmpty then none
  else
    (readExponent? rest).map fun exponent =>
      let digits := whole ++ part
      ofDecimal isNegative (digitsValue digits) (digits.dropWhile (· == '0')).length
        (exponent - part.length)

end Binary64
end OctetRelay
