/-
# Octets

A payload is a list of octets.  Two texts are made of octets here: the ASCII
spelling of a tag, and the hexadecimal spelling of a payload, two digits an
octet, most significant first.  `ofHex?_upperHex` says that the second loses
nothing.

Source: `encode` of `OctetStringCodec`, the digits of its content;
`SPEC_FULL.md` 3, Outbound Buffer.
-/

namespace OctetRelay

/-- A string of octets, in the order in which they arrive. -/
abbrev Octets := List UInt8

namespace Octets

/-- The octets that spell a text, one per ASCII character. -/
def ofAscii (text : String) : Octets :=
  text.toList.map fun c => UInt8.ofNat c.toNat

/-- The upper-case hexadecimal digit of a value below sixteen, as an ASCII octet. -/
def upperDigit (value : Nat) : UInt8 :=
  if value < 10 then UInt8.ofNat (48 + value) else UInt8.ofNat (55 + value)

/-- The two digits of an octet. -/
def digitPair (octet : UInt8) : Octets :=
  [upperDigit (octet.toNat / 16), upperDigit (octet.toNat % 16)]

/-- The upper-case hexadecimal spelling of a string of octets. -/
def upperHex (octets : Octets) : Octets :=
  octets.flatMap digitPair

/-- No octets have no digits. -/
@[simp] theorem upperHex_nil : upperHex [] = [] := rfl

/-- The digits of the first octet come first. -/
@[simp] theorem upperHex_cons (octet : UInt8) (octets : Octets) :
    upperHex (octet :: octets) = digitPair octet ++ upperHex octets := rfl

/-- Each octet has two digits. -/
theorem length_upperHex (octets : Octets) : (upperHex octets).length = 2 * octets.length := by
  induction octets with
  | nil => rfl
  | cons octet octets ih => simp [digitPair, ih]; omega

/-- The value of a hexadecimal digit in either case. -/
def digitValue? (digit : UInt8) : Option Nat :=
  let n := digit.toNat
  if 48 ≤ n ∧ n ≤ 57 then some (n - 48)
  else if 65 ≤ n ∧ n ≤ 70 then some (n - 55)
  else if 97 ≤ n ∧ n ≤ 102 then some (n - 87)
  else none

/-- Reads a hexadecimal spelling; an odd digit or a foreign character is refused. -/
def ofHex? : Octets → Option Octets
  | [] => some []
  | [_] => none
  | high :: low :: rest => do
    let h ← digitValue? high
    let l ← digitValue? low
    let octets ← ofHex? rest
    pure (UInt8.ofNat (16 * h + l) :: octets)

/-- A digit is worth what it was written for. -/
theorem digitValue?_upperDigit {value : Nat} (h : value < 16) :
    digitValue? (upperDigit value) = some value := by
  have cases : ∀ v : Fin 16, digitValue? (upperDigit v.val) = some v.val := by decide
  exact cases ⟨value, h⟩

/-- **A spelling reads back** as the octets it spells. -/
theorem ofHex?_upperHex (octets : Octets) : ofHex? (upperHex octets) = some octets := by
  induction octets with
  | nil => rfl
  | cons octet octets ih =>
    have high : octet.toNat / 16 < 16 := by have := octet.toNat_lt; omega
    have low : octet.toNat % 16 < 16 := Nat.mod_lt _ (by decide)
    have whole : 16 * (octet.toNat / 16) + octet.toNat % 16 = octet.toNat := by omega
    have back : UInt8.ofNat (16 * (octet.toNat / 16) + octet.toNat % 16) = octet := by
      rw [whole]; exact UInt8.ofNat_toNat
    simp only [upperHex_cons, digitPair, List.cons_append, List.nil_append, ofHex?,
      digitValue?_upperDigit high, digitValue?_upperDigit low, ih, back, bind, Option.bind, pure]

end Octets
end OctetRelay
