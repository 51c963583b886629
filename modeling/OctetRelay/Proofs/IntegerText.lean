/-
# What decimal integers spell

A decimal integer is an optional sign and one or more ASCII digits.  `Spells`
says which integer that is, whatever its size:

| text | integer |
| --- | --- |
| digits | their number in base ten |
| `+` and digits | the same |
| `-` and digits | its negative |

A reader of a range stops at the first digit that takes it past its bound, and
no later digit could take it back.  So it reads just the integers of its range
that are spelled (`readInteger_eq_ok_iff`), and a range without negative numbers
has no text with a minus sign, not even for zero.

Source: `parse_number`; `SPEC_FULL.md` 9, invalid numbers are fatal at startup.
-/

import OctetRelay.Text.Integer

namespace OctetRelay
namespace Text

/-- An integer of a range lies between its ends. -/
theorem IntegerRange.contains_iff {range : IntegerRange} {number : Int} :
    range.contains number = true ↔ -(range.below : Int) ≤ number ∧ number ≤ range.above := by
  rw [contains, Bool.and_eq_true, decide_eq_true_eq, decide_eq_true_eq]

/-- The words of 64 bits with a sign by their bounds. -/
theorem IntegerRange.contains_signed64_iff {number : Int} :
    signed64.contains number = true ↔
      -9223372036854775808 ≤ number ∧ number ≤ 9223372036854775807 :=
  contains_iff

/-- Without a sign such a word has 63 bits. -/
theorem IntegerRange.contains_signed64_natCast {number : Nat} :
    signed64.contains number = true ↔ number < Nat.pow 2 63 := by
  have hpow : Nat.pow 2 63 = 9223372036854775808 := rfl
  rw [contains_signed64_iff, hpow]
  omega

/-- The words of 64 bits without a sign by their bounds. -/
theorem IntegerRange.contains_unsigned64_iff {number : Int} :
    unsigned64.contains number = true ↔ 0 ≤ number ∧ number ≤ 18446744073709551615 :=
  contains_iff

/-- One or more ASCII digits. -/
structure IsDigits (text : List Char) : Prop where
  ne_nil : text ≠ []
  isDigit : ∀ c ∈ text, c.isDigit = true

/-- The integer that a text of an optional sign and digits spells. -/
inductive Spells : List Char → Int → Prop
  | plain {digits : List Char} (h : IsDigits digits) :
    Spells digits (Nat.ofDigitChars 10 digits 0)
  | plus {digits : List Char} (h : IsDigits digits) :
    Spells ('+' :: digits) (Nat.ofDigitChars 10 digits 0)
  | minus {digits : List Char} (h : IsDigits digits) :
    Spells ('-' :: digits) (-(Nat.ofDigitChars 10 digits 0 : Int))

/-- Digits do not begin with a sign. -/
theorem IsDigits.ne_sign {c : Char} {rest : List Char} (h : IsDigits (c :: rest)) :
    c ≠ '+' ∧ c ≠ '-' := by
  have hdigit : c.isDigit = true := h.isDigit c List.mem_cons_self
  constructor <;> rintro rfl <;> cases hdigit

/-- Nothing but digits stands among digits. -/
theorem IsDigits.not_mem {digits : List Char} (h : IsDigits digits) {c : Char}
    (hc : c.isDigit = false) : c ∉ digits := by
  intro hmem
  rw [h.isDigit c hmem] at hc
  cases hc

/-- Digits have no sign. -/
theorem IsDigits.minus_not_mem {digits : List Char} (h : IsDigits digits) : '-' ∉ digits :=
  h.not_mem rfl

/-- A text spells one integer at most. -/
theorem Spells.unique {text : List Char} {number other : Int} (h : Spells text number)
    (hother : Spells text other) : number = other := by
  cases h with
  | plain h =>
    cases hother with
    | plain => rfl
    | plus => exact absurd rfl h.ne_sign.1
    | minus => exact absurd rfl h.ne_sign.2
  | plus =>
    cases hother with
    | plain h => exact absurd rfl h.ne_sign.1
    | plus => rfl
  | minus =>
    cases hother with
    | plain h => exact absurd rfl h.ne_sign.2
    | minus => rfl

/-- The characters of a text that spells an integer. -/
theorem Spells.mem {text : List Char} {number : Int} (h : Spells text number) {c : Char}
    (hc : c ∈ text) : c = '+' ∨ c = '-' ∨ c.isDigit = true := by
  cases h with
  | plain h => exact .inr (.inr (h.isDigit c hc))
  | plus h => exact (List.mem_cons.1 hc).imp_right fun hc => .inr (h.isDigit c hc)
  | minus h => exact .inr ((List.mem_cons.1 hc).imp_right (h.isDigit c))

/-- A digit is worth its distance from zero. -/
theorem digitValue?_eq (c : Char) :
    digitValue? c = if c.isDigit = true then some (c.toNat - 48) else none := by
  have hdigit : ('0' ≤ c ∧ c ≤ '9') ↔ c.isDigit = true := by
    rw [Char.isDigit, Bool.and_eq_true, decide_eq_true_eq, decide_eq_true_eq]
    exact Iff.rfl
  rw [digitValue?]
  simp only [hdigit]

/-- Digits behind a number do not make it smaller. -/
theorem le_ofDigitChars (digits : List Char) (sum : Nat) :
    sum ≤ Nat.ofDigitChars 10 digits sum := by
  induction digits generalizing sum with
  | nil => exact Nat.le_refl sum
  | cons c rest ih =>
    rw [Nat.ofDigitChars_cons]
    have hrest := ih (10 * sum + (c.toNat - '0'.toNat))
    omega

/-- **Digits are read just if their number stays within the bound.** -/
theorem readDigits_eq_ok_iff {bound sum number : Nat} {excess : IntegerFault} {digits : List Char}
    (hsum : sum ≤ bound) :
    readDigits bound excess sum digits = .ok number ↔
      (∀ c ∈ digits, c.isDigit = true) ∧ Nat.ofDigitChars 10 digits sum = number ∧
        number ≤ bound := by
  induction digits generalizing sum with
  | nil =>
    rw [readDigits, Except.ok.injEq]
    exact ⟨fun h => ⟨List.forall_mem_nil _, h, h ▸ hsum⟩, fun h => h.2.1⟩
  | cons c rest ih =>
    rw [readDigits, digitValue?_eq, Nat.ofDigitChars_cons, List.forall_mem_cons]
    by_cases hdigit : c.isDigit = true
    · simp only [hdigit, if_true, true_and]
      split
      · -- past the bound there is no way back
        rename_i hexcess
        refine iff_of_false nofun fun ⟨_, hnumber, hbound⟩ => ?_
        have hle := le_ofDigitChars rest (10 * sum + (c.toNat - '0'.toNat))
        have hzero : '0'.toNat = 48 := rfl
        omega
      · rename_i hwithin
        exact ih (Nat.not_lt.1 hwithin)
    · rw [if_neg hdigit]
      exact iff_of_false nofun fun h => hdigit h.1.1

/-- A magnitude is read just from digits whose number is within the bound. -/
theorem readMagnitude_eq_ok_iff {bound number : Nat} {excess : IntegerFault} {digits : List Char} :
    readMagnitude bound excess digits = .ok number ↔
      IsDigits digits ∧ Nat.ofDigitChars 10 digits 0 = number ∧ number ≤ bound := by
  cases digits with
  | nil => exact iff_of_false nofun fun h => h.1.ne_nil rfl
  | cons c rest =>
    have hread : readMagnitude bound excess (c :: rest) = readDigits bound excess 0 (c :: rest) :=
      rfl
    rw [hread, readDigits_eq_ok_iff (Nat.zero_le bound)]
    exact and_congr_left fun _ => ⟨fun h => ⟨List.cons_ne_nil c rest, h⟩, IsDigits.isDigit⟩

/-- A magnitude that is read and gets its sign. -/
theorem signed_eq_ok_iff {read : Except IntegerFault Nat} {sign : Int → Int} {number : Int} :
    (read >>= fun n => pure (n : Int)).map sign = .ok number ↔
      ∃ n : Nat, read = .ok n ∧ sign n = number := by
  cases read with
  | error fault =>
    refine iff_of_false nofun ?_
    rintro ⟨n, hread, -⟩
    cases hread
  | ok n =>
    have hread : (Except.ok n >>= fun n => pure (n : Int)).map sign =
        (.ok (sign n) : Except IntegerFault Int) := rfl
    rw [hread, Except.ok.injEq]
    simp

/-- **An integer is read just if the text spells it and it lies in the range**, except that a range
without negative numbers takes no minus sign. -/
theorem readInteger_eq_ok_iff {range : IntegerRange} {text : List Char} {number : Int} :
    readInteger range text = .ok number ↔
      Spells text number ∧ range.contains number = true ∧ (range.below = 0 → '-' ∉ text) := by
  rw [IntegerRange.contains_iff]
  unfold readInteger
  -- The text is empty, starts with a sign of either kind, or has no sign.
  split
  · refine iff_of_false nofun fun ⟨h, _⟩ => ?_
    cases h with
    | plain h => exact h.ne_nil rfl
  · rename_i digits
    rw [signed_eq_ok_iff]
    constructor
    · rintro ⟨n, hread, rfl⟩
      obtain ⟨hdigits, rfl, hbound⟩ := readMagnitude_eq_ok_iff.1 hread
      refine ⟨.plus hdigits, ⟨by omega, by omega⟩, fun _ hmem => ?_⟩
      rcases List.mem_cons.1 hmem with heq | hmem
      · cases heq
      · exact hdigits.minus_not_mem hmem
    · rintro ⟨h, ⟨-, hbound⟩, -⟩
      cases h with
      | plain h => exact absurd rfl h.ne_sign.1
      | plus h => exact ⟨_, readMagnitude_eq_ok_iff.2 ⟨h, rfl, Int.ofNat_le.1 hbound⟩, rfl⟩
  · rename_i digits
    -- A range without numbers below zero has no minus sign, not even before a zero.
    split
    · rename_i hbelow
      exact iff_of_false nofun fun h => h.2.2 hbelow List.mem_cons_self
    · rename_i hbelow
      rw [signed_eq_ok_iff]
      constructor
      · rintro ⟨n, hread, rfl⟩
        obtain ⟨hdigits, rfl, hbound⟩ := readMagnitude_eq_ok_iff.1 hread
        exact ⟨.minus hdigits, ⟨by omega, by omega⟩, fun hzero => absurd hzero hbelow⟩
      · rintro ⟨h, ⟨hbound, -⟩, -⟩
        cases h with
        | plain h => exact absurd rfl h.ne_sign.2
        | minus h => exact ⟨_, readMagnitude_eq_ok_iff.2 ⟨h, rfl, by omega⟩, rfl⟩
  · rename_i hnil hplus hminus
    rw [signed_eq_ok_iff]
    constructor
    · rintro ⟨n, hread, rfl⟩
      obtain ⟨hdigits, rfl, hbound⟩ := (readDigits_eq_ok_iff (Nat.zero_le _)).1 hread
      have hdigits : IsDigits text := ⟨hnil, hdigits⟩
      exact ⟨.plain hdigits, ⟨by omega, by omega⟩, fun _ => hdigits.minus_not_mem⟩
    · rintro ⟨h, ⟨-, hbound⟩, -⟩
      cases h with
      | plain h =>
        refine ⟨_, (readDigits_eq_ok_iff (Nat.zero_le range.above)).2 ⟨h.isDigit, rfl, ?_⟩, rfl⟩
        exact Int.ofNat_le.1 hbound
      | plus => exact absurd rfl (hplus _)
      | minus => exact absurd rfl (hminus _)

end Text
end OctetRelay
