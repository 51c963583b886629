/-
# What an unquoted text stands for

The kind of a value from the environment is guessed from its text.  Where no
quotes, brackets or braces mark the text, the guess is this:

| text | stands for |
| --- | --- |
| `true`, `false` | a flag |
| a sign or none, and digits | an integer, if it has a place in 64 bits |
| a sign or none, digits with a point among or beside them, and an exponent or none | a fraction |
| anything else | itself, character by character |

The guess does not ask what the value is for.  So a name of a topic or a group,
which is made of letters, digits, points, underscores and dashes, goes through
just if it is none of the first three (`parse_of_not_typed`), and is no text at
all if it is one of them (`exists_parse_of_typed`).

Source: the values of variables in `from_layers`; `SPEC_FULL.md` 11, the merged
sources.
-/

import OctetRelay.Proofs.IntegerText
import OctetRelay.Proofs.Trimming
import OctetRelay.Settings.Literal

namespace OctetRelay
namespace Text

/-- A sign, or none. -/
inductive IsSign : List Char → Prop
  | none : IsSign []
  | plus : IsSign ['+']
  | minus : IsSign ['-']

/-- An exponent, or none. -/
inductive IsExponent : List Char → Prop
  | none : IsExponent []
  | power {letter : Char} {sign digits : List Char} (hletter : letter = 'e' ∨ letter = 'E')
    (hsign : IsSign sign) (hdigits : IsDigits digits) : IsExponent (letter :: (sign ++ digits))

/-- A number with a point: a sign, digits on one side of the point or on both, and an exponent. -/
inductive IsFraction : List Char → Prop
  | mk {sign whole part exponent : List Char} (hsign : IsSign sign)
    (hwhole : ∀ c ∈ whole, c.isDigit = true) (hpart : ∀ c ∈ part, c.isDigit = true)
    (hdigits : whole ≠ [] ∨ part ≠ []) (hexponent : IsExponent exponent) :
    IsFraction (sign ++ (whole ++ '.' :: (part ++ exponent)))

/-- A text without the sign at its start. -/
def unsigned : List Char → List Char
  | '+' :: rest => rest
  | '-' :: rest => rest
  | rest => rest

/-- Every text is a sign, or none, and the text without it. -/
theorem exists_sign (text : List Char) :
    ∃ sign, IsSign sign ∧ text = sign ++ unsigned text := by
  unfold unsigned
  split
  · exact ⟨_, .plus, rfl⟩
  · exact ⟨_, .minus, rfl⟩
  · exact ⟨_, .none, rfl⟩

/-- A sign has no point. -/
theorem IsSign.point_not_mem {sign : List Char} (h : IsSign sign) : '.' ∉ sign := by
  cases h <;> decide

/-- A text without a sign stays as it is. -/
theorem unsigned_eq {text : List Char} (hplus : ∀ rest, text ≠ '+' :: rest)
    (hminus : ∀ rest, text ≠ '-' :: rest) : unsigned text = text := by
  unfold unsigned
  split
  · exact absurd rfl (hplus _)
  · exact absurd rfl (hminus _)
  · rfl

/-- A text that starts with no sign has none. -/
theorem unsigned_of_ne {c : Char} {rest : List Char} (hplus : c ≠ '+') (hminus : c ≠ '-') :
    unsigned (c :: rest) = c :: rest :=
  unsigned_eq (fun _ heq => hplus (List.cons.inj heq).1) fun _ heq => hminus (List.cons.inj heq).1

/-- The sign in front of a text that has none of its own. -/
theorem unsigned_append {sign rest : List Char} {c : Char} (hsign : IsSign sign) (hplus : c ≠ '+')
    (hminus : c ≠ '-') : unsigned (sign ++ c :: rest) = c :: rest := by
  cases hsign with
  | none => exact unsigned_of_ne hplus hminus
  | plus => rfl
  | minus => rfl

/-- Of signed digits the digits are left. -/
theorem IsDigits.unsigned_append {sign digits : List Char} (h : IsDigits digits)
    (hsign : IsSign sign) : unsigned (sign ++ digits) = digits := by
  cases digits with
  | nil => exact absurd rfl h.ne_nil
  | cons c rest => exact Text.unsigned_append hsign h.ne_sign.1 h.ne_sign.2

/-- The digits of a number end before its exponent. -/
theorem IsExponent.takeWhile_eq {exponent : List Char} (h : IsExponent exponent) :
    exponent.takeWhile Char.isDigit = [] ∧ exponent.dropWhile Char.isDigit = exponent := by
  cases h with
  | none => exact ⟨rfl, rfl⟩
  | power hletter => rcases hletter with rfl | rfl <;> exact ⟨rfl, rfl⟩

/-- An exponent has no point. -/
theorem IsExponent.point_not_mem {exponent : List Char} (h : IsExponent exponent) :
    '.' ∉ exponent := by
  cases h with
  | none => exact List.not_mem_nil
  | power hletter hsign hdigits =>
    rw [List.mem_cons, List.mem_append, not_or, not_or]
    refine ⟨?_, hsign.point_not_mem, hdigits.not_mem rfl⟩
    rcases hletter with rfl | rfl <;> decide

end Text

namespace Binary64

open Text (IsSign IsExponent IsFraction IsDigits unsigned)

/-- Behind its letter an exponent has an optional sign and digits. -/
theorem isSome_readExponent?_cons {c : Char} (hletter : c = 'e' ∨ c = 'E') (rest : List Char) :
    (readExponent? (c :: rest)).isSome = true ↔ IsDigits (unsigned rest) := by
  have hdigits (digits : List Char) (number : Int) :
      (if digits.isEmpty || !digits.all Char.isDigit then none else some number).isSome = true ↔
        IsDigits digits := by
    cases digits with
    | nil => exact iff_of_false nofun fun h => h.ne_nil rfl
    | cons d digits =>
      have hall : (d :: digits).all Char.isDigit = true ↔ IsDigits (d :: digits) :=
        List.all_eq_true.trans ⟨fun h => ⟨List.cons_ne_nil d digits, h⟩, IsDigits.isDigit⟩
      rw [← hall]
      cases (d :: digits).all Char.isDigit <;> simp
  simp only [readExponent?, if_pos hletter]
  split
  · exact hdigits _ _
  · exact hdigits _ _
  · rename_i hplus hminus
    rw [Text.unsigned_eq hplus hminus]
    exact hdigits _ _

/-- **Just the exponents are read as one.** -/
theorem isSome_readExponent?_iff {text : List Char} :
    (readExponent? text).isSome = true ↔ IsExponent text := by
  cases text with
  | nil => exact iff_of_true rfl .none
  | cons c rest =>
    by_cases hletter : c = 'e' ∨ c = 'E'
    · rw [isSome_readExponent?_cons hletter]
      constructor
      · intro hdigits
        obtain ⟨sign, hsign, hrest⟩ := Text.exists_sign rest
        rw [hrest]
        exact .power hletter hsign hdigits
      · intro h
        cases h with
        | power _ hsign hdigits => rwa [hdigits.unsigned_append hsign]
    · refine iff_of_false ?_ fun h => ?_
      · simp [readExponent?, hletter]
      · cases h with
        | power hletter' => exact hletter hletter'

/-- Behind the sign and the first digits of a number there is a point with digits and an exponent, or
an exponent alone.  There is a digit on one side of the point. -/
theorem isSome_ofText? (text : List Char) :
    let whole := (unsigned text).takeWhile Char.isDigit
    let behind := (unsigned text).dropWhile Char.isDigit
    (∀ rest, behind = '.' :: rest →
      (ofText? text).isSome =
        (!(whole.isEmpty && (rest.takeWhile Char.isDigit).isEmpty) &&
          (readExponent? (rest.dropWhile Char.isDigit)).isSome)) ∧
    ((∀ rest, behind ≠ '.' :: rest) →
      (ofText? text).isSome = (!whole.isEmpty && (readExponent? behind).isSome)) := by
  have hif (b : Bool) (exponent : Option Int) (number : Int → Binary64) :
      (if b = true then none else exponent.map number).isSome = (!b && exponent.isSome) := by
    cases b <;> simp
  unfold ofText?
  split
  rename_i isNegative body hsplit
  have hbody : unsigned text = body := by
    split at hsplit
    · exact congrArg Prod.snd hsplit
    · exact congrArg Prod.snd hsplit
    · rename_i hplus hminus
      rw [Text.unsigned_eq hplus hminus]
      exact congrArg Prod.snd hsplit
  simp only [hbody]
  constructor
  · intro rest hbehind
    simp only [hbehind, hif]
  · intro hbehind
    split
    · exact absurd ‹_› (hbehind _)
    · rw [hif, List.isEmpty_nil, Bool.and_true]

/-- A text with a point that is read as a number is a fraction. -/
theorem isFraction_of_isSome {text : List Char} (hpoint : '.' ∈ text)
    (h : (ofText? text).isSome = true) : IsFraction text := by
  obtain ⟨sign, hsign, htext⟩ := Text.exists_sign text
  have hbody := List.takeWhile_append_dropWhile (p := Char.isDigit) (l := unsigned text)
  have hdigits (rest : List Char) : ∀ c ∈ rest.takeWhile Char.isDigit, c.isDigit = true :=
    fun c hc => List.mem_takeWhile_imp hc
  obtain ⟨hwith, hwithout⟩ := isSome_ofText? text
  by_cases hbehind : ∃ rest, (unsigned text).dropWhile Char.isDigit = '.' :: rest
  · obtain ⟨rest, hbehind⟩ := hbehind
    rw [hwith rest hbehind, Bool.and_eq_true, isSome_readExponent?_iff] at h
    obtain ⟨hsome, hexponent⟩ := h
    rw [htext, ← hbody, hbehind,
      ← List.takeWhile_append_dropWhile (p := Char.isDigit) (l := rest)]
    refine .mk hsign (hdigits _) (hdigits _) ?_ hexponent
    simpa [imp_iff_not_or] using hsome
  · -- without a point behind its digits, no part of the number has one
    rw [hwithout (not_exists.1 hbehind), Bool.and_eq_true, isSome_readExponent?_iff] at h
    rw [htext, ← hbody] at hpoint
    rcases List.mem_append.1 hpoint with hmem | hmem
    · exact absurd hmem hsign.point_not_mem
    rcases List.mem_append.1 hmem with hmem | hmem
    · have hdigit := hdigits _ _ hmem
      cases hdigit
    · exact absurd hmem h.2.point_not_mem

/-- A fraction is read as a number. -/
theorem isSome_of_isFraction {text : List Char} (h : IsFraction text) :
    (ofText? text).isSome = true := by
  cases h with
  | @mk sign whole part exponent hsign hwhole hpart hdigits hexponent =>
    have hbody : unsigned (sign ++ (whole ++ '.' :: (part ++ exponent))) =
        whole ++ '.' :: (part ++ exponent) := by
      cases whole with
      | nil => exact Text.unsigned_append hsign (by decide) (by decide)
      | cons c rest =>
        have hsigns := IsDigits.ne_sign ⟨List.cons_ne_nil c rest, hwhole⟩
        exact Text.unsigned_append hsign hsigns.1 hsigns.2
    have hfront : (whole ++ '.' :: (part ++ exponent)).takeWhile Char.isDigit = whole :=
      (List.takeWhile_append_of_pos hwhole).trans (List.append_nil whole)
    have hbehind : (whole ++ '.' :: (part ++ exponent)).dropWhile Char.isDigit =
        '.' :: (part ++ exponent) := List.dropWhile_append_of_pos hwhole
    obtain ⟨htake, hdrop⟩ := hexponent.takeWhile_eq
    rw [(isSome_ofText? _).1 (part ++ exponent) (by rw [hbody, hbehind]), hbody]
    simp only [hfront, List.takeWhile_append_of_pos hpart, List.dropWhile_append_of_pos hpart,
      htake, hdrop, isSome_readExponent?_iff.2 hexponent, List.append_nil]
    simpa [imp_iff_not_or] using hdigits

/-- **Of the texts with a point, just the fractions are read as a number.** -/
theorem isSome_ofText?_iff {text : List Char} (hpoint : '.' ∈ text) :
    (ofText? text).isSome = true ↔ IsFraction text :=
  ⟨isFraction_of_isSome hpoint, isSome_of_isFraction⟩

end Binary64

namespace Text

/-- The texts that stand for a number: integers that have a place in 64 bits, with or without a sign
bit, and fractions. -/
inductive IsNumber (text : List Char) : Prop
  | integer {number : Int} (h : Spells text number) (hlow : -9223372036854775808 ≤ number)
    (hhigh : number ≤ 18446744073709551615)
  | fraction (h : IsFraction text)

/-- A whole number has no point. -/
theorem Spells.point_not_mem {text : List Char} {number : Int} (h : Spells text number) :
    '.' ∉ text := by
  intro hmem
  rcases h.mem hmem with hc | hc | hc <;> cases hc

/-- An integer above zero is spelled without a minus sign. -/
theorem Spells.minus_not_mem {text : List Char} {number : Int} (h : Spells text number)
    (hpos : 0 < number) : '-' ∉ text := by
  cases h with
  | plain h => exact h.minus_not_mem
  | plus h =>
    intro hmem
    rcases List.mem_cons.1 hmem with hc | hmem
    · cases hc
    · exact h.minus_not_mem hmem
  | minus => omega

/-- An integer that has a place in 64 bits is read with a sign bit or without one. -/
theorem Spells.read {text : List Char} {number : Int} (h : Spells text number)
    (hlow : -9223372036854775808 ≤ number) (hhigh : number ≤ 18446744073709551615) :
    readInteger .signed64 text = .ok number ∨ readInteger .unsigned64 text = .ok number := by
  by_cases hbelow : number ≤ 9223372036854775807
  · have hrange := IntegerRange.contains_signed64_iff.2 ⟨hlow, hbelow⟩
    exact .inl (readInteger_eq_ok_iff.2 ⟨h, hrange, nofun⟩)
  · have hrange := IntegerRange.contains_unsigned64_iff.2 ⟨by omega, hhigh⟩
    have hminus : '-' ∉ text := h.minus_not_mem (by omega)
    exact .inr (readInteger_eq_ok_iff.2 ⟨h, hrange, fun _ => hminus⟩)

/-- A fraction has one. -/
theorem IsFraction.point_mem {text : List Char} (h : IsFraction text) : '.' ∈ text := by
  cases h
  simp

/-- The first character of a number is a sign, a point or a digit. -/
theorem IsNumber.head {text : List Char} (h : IsNumber text) :
    ∀ c ∈ text.head?, c = '+' ∨ c = '-' ∨ c = '.' ∨ c.isDigit = true := by
  intro c hc
  cases h with
  | integer h =>
    rcases h.mem (List.mem_of_head? hc) with hc | hc | hc
    · exact .inl hc
    · exact .inr (.inl hc)
    · exact .inr (.inr (.inr hc))
  | fraction h =>
    cases h with
    | mk hsign hwhole =>
      cases hsign with
      | plus => exact .inl (Option.some.inj hc).symm
      | minus => exact .inr (.inl (Option.some.inj hc).symm)
      | none =>
        rename_i whole part exponent _ _ _
        cases whole with
        | nil => exact .inr (.inr (.inl (Option.some.inj hc).symm))
        | cons d rest =>
          obtain rfl : d = c := Option.some.inj hc
          exact .inr (.inr (.inr (hwhole d List.mem_cons_self)))

end Text

namespace Literal

open Text (IsNumber IsFraction Spells readInteger)

/-- **A number does not stand for a text.** -/
theorem bare_of_isNumber {text : List Char} (h : IsNumber text) (other : String) :
    bare text ≠ .text other := by
  cases h with
  | fraction h =>
    obtain ⟨number, hnumber⟩ := Option.isSome_iff_exists.1 (Binary64.isSome_of_isFraction h)
    have hpoint : text.contains '.' = true := List.contains_iff_mem.2 h.point_mem
    simp only [bare, hpoint, hnumber, if_true]
    exact nofun
  | @integer number h hlow hhigh =>
    have hpoint : text.contains '.' = false := by
      rw [← Bool.not_eq_true, List.contains_iff_mem]
      exact h.point_not_mem
    simp only [bare, hpoint, Bool.false_eq_true, if_false]
    rcases h.read hlow hhigh with hread | hread
    · rw [hread]
      cases readInteger .unsigned64 text <;> exact nofun
    · rw [hread]
      exact nofun

/-- **A text that is no number stands for itself.** -/
theorem bare_of_not_isNumber {text : List Char} (h : ¬IsNumber text) :
    bare text = .text (String.ofList text) := by
  have hfraction : (if text.contains '.' then Binary64.ofText? text else none) = none := by
    split
    · rename_i hpoint
      have hmem : '.' ∈ text := List.contains_iff_mem.1 hpoint
      rw [← Option.not_isSome_iff_eq_none, Binary64.isSome_ofText?_iff hmem]
      exact fun hfraction => h (.fraction hfraction)
    · rfl
  unfold bare
  simp only [hfraction]
  cases hunsigned : readInteger .unsigned64 text with
  | ok number =>
    obtain ⟨hspells, hrange, -⟩ := Text.readInteger_eq_ok_iff.1 hunsigned
    rw [Text.IntegerRange.contains_unsigned64_iff] at hrange
    exact absurd (.integer hspells (by omega) hrange.2) h
  | error fault =>
    cases hsigned : readInteger .signed64 text with
    | ok number =>
      obtain ⟨hspells, hrange, -⟩ := Text.readInteger_eq_ok_iff.1 hsigned
      rw [Text.IntegerRange.contains_signed64_iff] at hrange
      exact absurd (.integer hspells hrange.1 (by omega)) h
    | error fault' => rfl

/-- Whether a character may stand in the name of a topic or a group: an ASCII letter or digit, a
point, an underscore or a dash. -/
def isNameChar (c : Char) : Bool :=
  c.isAlphanum || c = '.' || c = '_' || c = '-'

/-- One or more characters that may stand in a name. -/
structure IsName (text : List Char) : Prop where
  ne_nil : text ≠ []
  isNameChar : ∀ c ∈ text, Literal.isNameChar c = true

/-- What follows a front of a text is the rest of it. -/
theorem after?_eq_some_iff {front text rest : List Char} :
    after? front text = some rest ↔ text = front ++ rest := by
  induction front generalizing text with
  | nil => exact Option.some_inj
  | cons c front ih =>
    cases text with
    | nil => exact iff_of_false nofun nofun
    | cons d text =>
      rw [after?]
      split
      · rename_i heq
        rw [ih, heq, List.cons_append, List.cons.injEq, eq_self, true_and]
      · rename_i hne
        refine iff_of_false nofun fun h => ?_
        exact hne (List.cons.inj h).1.symm

/-- The characters of names are printed ones of ASCII. -/
theorem toNat_of_isNameChar {c : Char} (h : isNameChar c = true) :
    45 ≤ c.toNat ∧ c.toNat ≤ 122 := by
  have hrange {low high : UInt32} (h : low ≤ c.val ∧ c.val ≤ high) :
      low.toNat ≤ c.toNat ∧ c.toNat ≤ high.toNat :=
    h.imp UInt32.le_iff_toNat_le.1 UInt32.le_iff_toNat_le.1
  have hboth {low high : UInt32} (h : (decide (low ≤ c.val) && decide (c.val ≤ high)) = true) :
      low ≤ c.val ∧ c.val ≤ high :=
    (Bool.and_eq_true_iff.1 h).imp of_decide_eq_true of_decide_eq_true
  simp only [isNameChar, Bool.or_eq_true, decide_eq_true_eq] at h
  rcases h with ((halphanum | rfl) | rfl) | rfl
  · have hkinds : c.isAlpha = true ∨ c.isDigit = true := Bool.or_eq_true_iff.1 halphanum
    rcases hkinds with halpha | hdigit
    · have hcases : c.isUpper = true ∨ c.isLower = true := Bool.or_eq_true_iff.1 halpha
      rcases hcases with hupper | hlower
      · have hbounds : 65 ≤ c.toNat ∧ c.toNat ≤ 90 := hrange (of_decide_eq_true hupper)
        omega
      · have hbounds : 97 ≤ c.toNat ∧ c.toNat ≤ 122 := hrange (hboth hlower)
        omega
    · have hbounds : 48 ≤ c.toNat ∧ c.toNat ≤ 57 := hrange (hboth hdigit)
      omega
  all_goals decide

/-- The characters of names are no blanks. -/
theorem isBlank_of_isNameChar {c : Char} (h : isNameChar c = true) : Text.isBlank c = false := by
  obtain ⟨hlow, hhigh⟩ := toNat_of_isNameChar h
  simp only [Text.isBlank, Bool.or_eq_false_iff, Bool.and_eq_false_iff, decide_eq_false_iff_not,
    beq_eq_false_iff_ne]
  omega

/-- A character of a name neither is a gap nor ends an unquoted value. -/
theorem isSeparator_of_isNameChar {c : Char} (h : isNameChar c = true) :
    isGap c = false ∧ isSeparator c = false := by
  constructor
  · rw [← Bool.not_eq_true]
    intro hgap
    simp only [isGap, Bool.or_eq_true, decide_eq_true_eq] at hgap
    rcases hgap with (((rfl | rfl) | rfl) | rfl) | rfl <;> cases h
  · rw [← Bool.not_eq_true]
    intro hseparator
    simp only [isSeparator, Bool.or_eq_true, decide_eq_true_eq] at hseparator
    rcases hseparator with (((rfl | rfl) | rfl) | rfl) | rfl <;> cases h

/-- A name has no gap in front of it. -/
theorem skipGap_of_isNameChar {text : List Char} (h : ∀ c ∈ text, isNameChar c = true) :
    skipGap text = text := by
  cases text with
  | nil => rfl
  | cons c rest =>
    have hgap := (isSeparator_of_isNameChar (h c List.mem_cons_self)).1
    rw [skipGap, List.dropWhile_cons_of_neg (by rw [hgap]; exact Bool.false_ne_true)]

/-- An unquoted text is read to its end. -/
theorem readValue_of_isName {text : List Char} (h : IsName text)
    (htrue : after? "true".toList text = none) (hfalse : after? "false".toList text = none)
    (fuel : Nat) : readValue (fuel + 1) text = some (scalar (bare text), []) := by
  unfold readValue
  dsimp only
  rw [skipGap_of_isNameChar h.isNameChar, htrue, hfalse]
  dsimp only
  have hseparator : ∀ c ∈ text, (!isSeparator c) = true := fun c hc => by
    rw [(isSeparator_of_isNameChar (h.isNameChar c hc)).2]
    rfl
  have htrim : Text.trimChars text = text := by
    refine Text.IsTrimmed.trimChars_eq ⟨fun c hc => ?_, fun c hc => ?_⟩
    · exact isBlank_of_isNameChar (h.isNameChar c (List.mem_of_head? hc))
    · exact isBlank_of_isNameChar (h.isNameChar c (List.mem_of_getLast? hc))
  split
  · cases h.isNameChar _ List.mem_cons_self
  · cases h.isNameChar _ List.mem_cons_self
  · cases h.isNameChar _ List.mem_cons_self
  · cases h.isNameChar _ List.mem_cons_self
  · cases h.isNameChar _ List.mem_cons_self
  · rw [List.takeWhile_eq_self_iff.2 hseparator, List.dropWhile_eq_nil_iff.2 hseparator, htrim]
    rfl

/-- The word of a flag at the start of a text is read as the flag, and the rest is left. -/
theorem readValue_flag (flag : Bool) {rest : List Char} (h : ∀ c ∈ rest, isNameChar c = true)
    (fuel : Nat) :
    readValue (fuel + 1) ((toString flag).toList ++ rest) = some (scalar (.flag flag), rest) := by
  have hgap : skipGap ((toString flag).toList ++ rest) = (toString flag).toList ++ rest := by
    cases flag <;> rfl
  unfold readValue
  dsimp only
  rw [hgap]
  cases flag with
  | true =>
    have hself : after? "true".toList ((toString true).toList ++ rest) = some rest :=
      after?_eq_some_iff.2 rfl
    rw [hself]
    dsimp only [Option.map_some]
    rw [skipGap_of_isNameChar h]
  | false =>
    have htrue : after? "true".toList ((toString false).toList ++ rest) = none := rfl
    have hself : after? "false".toList ((toString false).toList ++ rest) = some rest :=
      after?_eq_some_iff.2 rfl
    rw [htrue, hself]
    dsimp only [Option.map_some]
    rw [skipGap_of_isNameChar h]

/-- A text that begins with the word of a flag is no number. -/
theorem not_isNumber_of_flag (flag : Bool) (rest : List Char) :
    ¬IsNumber ((toString flag).toList ++ rest) := by
  intro h
  cases flag with
  | true => rcases h.head 't' rfl with hc | hc | hc | hc <;> cases hc
  | false => rcases h.head 'f' rfl with hc | hc | hc | hc <;> cases hc

/-- **What a name stands for**: the words of the flags are flags, and of the others a number is a
number and the rest are texts. -/
theorem parse_of_isName {name : String} (h : IsName name.toList) :
    parse name = scalar (if name = "true" then .flag true else if name = "false" then .flag false
      else bare name.toList) := by
  -- A name that only starts like a flag is not read as one, since something is left behind it.
  by_cases hflag : ∃ flag rest, name.toList = (toString (flag : Bool)).toList ++ rest
  · obtain ⟨flag, rest, hname⟩ := hflag
    cases rest with
    | nil =>
      obtain rfl : name = toString flag := String.toList_inj.1 (hname.trans (List.append_nil _))
      cases flag <;> rfl
    | cons c rest =>
      have hother (other : Bool) : name ≠ toString other := by
        rintro rfl
        cases flag <;> cases other <;> simp [toString] at hname
      have hrest : ∀ d ∈ c :: rest, isNameChar d = true := fun d hd =>
        h.isNameChar d (hname ▸ List.mem_append_right _ hd)
      have hparse : parse name = scalar (.text name) := by
        rw [parse, hname, readValue_flag flag hrest]
      have hnumber : ¬IsNumber name.toList := hname ▸ not_isNumber_of_flag flag _
      have htrue : name ≠ "true" := hother true
      have hfalse : name ≠ "false" := hother false
      rw [hparse, if_neg htrue, if_neg hfalse, bare_of_not_isNumber hnumber, String.ofList_toList]
  · have hother (other : Bool) : name ≠ toString other := by
      rintro rfl
      exact hflag ⟨other, [], (List.append_nil _).symm⟩
    have hafter (flag : Bool) : after? (toString flag).toList name.toList = none := by
      rw [Option.eq_none_iff_forall_ne_some]
      exact fun rest hrest => hflag ⟨flag, rest, after?_eq_some_iff.1 hrest⟩
    have htrue : name ≠ "true" := hother true
    have hfalse : name ≠ "false" := hother false
    rw [parse, readValue_of_isName h (hafter true) (hafter false), if_neg htrue, if_neg hfalse]

/-- Whether a text stands for a flag or a number. -/
def Typed (text : String) : Prop :=
  text = "true" ∨ text = "false" ∨ IsNumber text.toList

/-- **A name that stands for a flag or a number is no text.** -/
theorem exists_parse_of_typed {name : String} (h : IsName name.toList) (htyped : Typed name) :
    ∃ content, parse name = scalar content ∧ ∀ text, content ≠ .text text := by
  refine ⟨_, parse_of_isName h, fun text => ?_⟩
  by_cases htrue : name = "true"
  · rw [if_pos htrue]
    exact nofun
  by_cases hfalse : name = "false"
  · rw [if_neg htrue, if_pos hfalse]
    exact nofun
  have hnumber : IsNumber name.toList := (htyped.resolve_left htrue).resolve_left hfalse
  rw [if_neg htrue, if_neg hfalse]
  exact bare_of_isNumber hnumber text

/-- **Every other name is a text**, with all its characters. -/
theorem parse_of_not_typed {name : String} (h : IsName name.toList) (htyped : ¬Typed name) :
    parse name = scalar (.text name) := by
  obtain ⟨htrue, hrest⟩ := not_or.1 htyped
  obtain ⟨hfalse, hnumber⟩ := not_or.1 hrest
  rw [parse_of_isName h, if_neg htrue, if_neg hfalse, bare_of_not_isNumber hnumber,
    String.ofList_toList]

/-- The greatest integer of 64 bits is a number, and the next one a text. -/
example :
    parse "18446744073709551615" = scalar (.unsigned 18446744073709551615) ∧
      parse "18446744073709551616" = scalar (.text "18446744073709551616") := by
  constructor <;> rfl

end Literal
end OctetRelay
