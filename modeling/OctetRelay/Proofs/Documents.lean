/-
# Settings documents

Settings that are written as a document are the same settings when they are read
again (`toOption_ofValue_document`), the ones that are absent included.  An
explicit offset below zero is the one thing that is written and not read.

Each setting is found under its name and read on its own (`readUnder_of_mem`):

| value | written as | read by |
| --- | --- | --- |
| text, flag | itself | `readText`, `readFlag` |
| whole number | a scalar with a sign only below zero | `readWord_ofInt` |
| starting position | its text | `readOptional_offset` |
| a setting that may be absent | itself, or the absent scalar | `readOptional_getD` |
| topics | a list of texts | `readTopics_of_texts?` |
| client properties | a dictionary of texts | `readEntries_map` |

The whole numbers of a document are those of 64 bits, with a sign or without
one.  Each of them is read from its own numeral (`Numeral.scalar_toString`).

Source: `PipelineConfig` as it is written and read; `SPEC_FULL.md` 3, Pipeline
Configuration.
-/

import OctetRelay.Proofs.ReadLayer
import OctetRelay.Settings.Numeral
import OctetRelay.Settings.Writing

namespace OctetRelay

open Dictionary (get?)

/-- The whole numbers of a document: those of 64 bits, with a sign or without one. -/
def IsWhole (number : Int) : Prop :=
  Text.IntegerRange.signed64.contains number = true ∨
    Text.IntegerRange.unsigned64.contains number = true

/-- The whole numbers of a document by their bounds. -/
theorem isWhole_iff {number : Int} :
    IsWhole number ↔ -9223372036854775808 ≤ number ∧ number ≤ 18446744073709551615 := by
  rw [IsWhole, Text.IntegerRange.contains_signed64_iff, Text.IntegerRange.contains_unsigned64_iff]
  omega

/-- All integers of the range are whole numbers of a document. -/
def Text.IntegerRange.IsNarrow (range : Text.IntegerRange) : Prop :=
  range.below ≤ Nat.pow 2 63 ∧ range.above ≤ Nat.pow 2 64 - 1

instance (range : Text.IntegerRange) : Decidable range.IsNarrow :=
  inferInstanceAs (Decidable (_ ∧ _))

/-- The numbers of a narrow range are whole numbers of a document. -/
theorem Text.IntegerRange.IsNarrow.isWhole {range : Text.IntegerRange} (hrange : range.IsNarrow)
    {number : Int} (h : range.contains number = true) : IsWhole number := by
  obtain ⟨hbelow, habove⟩ := hrange
  rw [contains_iff] at h
  have hlow : range.below ≤ 9223372036854775808 := hbelow
  have hhigh : range.above ≤ 18446744073709551615 := habove
  exact isWhole_iff.2 ⟨by omega, by omega⟩

/-- A whole number that is written is there. -/
theorem Scalar.ofInt_ne_absent (number : Int) : Scalar.ofInt number ≠ .absent := by
  rw [Scalar.ofInt]
  split <;> nofun

namespace Numeral

open Text (IsDigits)

/-- Digits are taken up as long as their number has 64 bits. -/
theorem absorb_of_lt {digits : List Char} {sum : Nat}
    (h : Nat.ofDigitChars 10 digits sum < Nat.pow 2 64) :
    absorb sum digits = (Nat.ofDigitChars 10 digits sum, []) := by
  induction digits generalizing sum with
  | nil => rfl
  | cons c rest ih =>
    rw [Nat.ofDigitChars_cons] at h
    have hnext : 10 * sum + (c.toNat - 48) < Nat.pow 2 64 :=
      Nat.lt_of_le_of_lt (Text.le_ofDigitChars rest _) h
    rw [absorb]
    simp only [if_pos hnext]
    exact ih h

/-- Digits are a numeral of nothing but its whole part. -/
theorem Parts.of_digits {digits : List Char} (h : IsDigits digits) :
    Parts.of digits = { isNegative := false, whole := digits, fraction := [], exponent := [] } := by
  have hall : digits.takeWhile Char.isDigit = digits := List.takeWhile_eq_self_iff.2 h.isDigit
  have hnone : digits.dropWhile Char.isDigit = [] := List.dropWhile_eq_nil_iff.2 h.isDigit
  have hsign : ∀ rest, digits ≠ '-' :: rest := fun rest heq =>
    (heq ▸ h).ne_sign.2 rfl
  unfold Parts.of
  split
  rename_i isNegative unsigned hsplit
  split at hsplit
  · exact absurd rfl (hsign _)
  · obtain ⟨rfl, rfl⟩ := Prod.mk.inj hsplit
    simp only [hall, hnone]

/-- The same with a sign in front of them. -/
theorem Parts.of_minus {digits : List Char} (h : IsDigits digits) :
    Parts.of ('-' :: digits) =
      { isNegative := true, whole := digits, fraction := [], exponent := [] } := by
  have hall : digits.takeWhile Char.isDigit = digits := List.takeWhile_eq_self_iff.2 h.isDigit
  have hnone : digits.dropWhile Char.isDigit = [] := List.dropWhile_eq_nil_iff.2 h.isDigit
  simp only [Parts.of, hall, hnone]

/-- **A whole number of a document is read from its own numeral.** -/
theorem scalar_toString {number : Int} (h : IsWhole number) :
    scalar (toString number).toList = .ofInt number := by
  obtain ⟨hlow, hhigh⟩ := isWhole_iff.1 h
  have hbound : Nat.pow 2 64 = 18446744073709551616 := rfl
  have hvalue (n : Nat) : Nat.ofDigitChars 10 (Nat.toDigits 10 n) 0 = n :=
    Nat.ofDigitChars_toDigits (by decide) (by decide)
  have habsorb {n : Nat} (hn : n < Nat.pow 2 64) : absorb 0 (Nat.toDigits 10 n) = (n, []) := by
    rw [absorb_of_lt (by rwa [hvalue]), hvalue]
  rw [Text.toList_toString, Scalar.ofInt]
  split
  · rename_i hpos
    rw [if_neg (Int.not_lt.2 hpos), scalar, Parts.of_digits (Text.isDigits_toDigits _)]
    simp only [habsorb (by omega : number.toNat < Nat.pow 2 64)]
    rfl
  · rename_i hneg
    have hsum : ¬ ((-number).toNat = 0 ∨ Nat.pow 2 63 < (-number).toNat) := by
      have hpow : Nat.pow 2 63 = 9223372036854775808 := rfl
      omega
    have hnumber : -((-number).toNat : Int) = number := by omega
    rw [if_pos (Int.not_le.1 hneg), scalar, Parts.of_minus (Text.isDigits_toDigits _)]
    simp only [habsorb (by omega : (-number).toNat < Nat.pow 2 64), hnumber, if_neg hsum]
    rfl

end Numeral

namespace Value

/-- A whole number that is written is that number. -/
theorem integer?_ofInt {number : Int} (h : IsWhole number) (origin : Origin) :
    (Value.scalar origin (.ofInt number)).integer? = some number := by
  obtain ⟨hlow, hhigh⟩ := isWhole_iff.1 h
  rw [Scalar.ofInt]
  split
  · rename_i hneg
    exact congrArg some (Int64.toInt_ofInt_of_le hlow (by omega))
  · rename_i hpos
    have hnumber : (UInt64.ofNat number.toNat).toNat = number.toNat :=
      UInt64.toNat_ofNat_of_lt' (by simp only [UInt64.size]; omega)
    rw [integer?, hnumber, Int.toNat_of_nonneg (Int.not_lt.1 hpos)]

end Value

namespace Dictionary

/-- Where no key stands twice, every pair is found under its key. -/
theorem get?_ofList_of_mem {α : Type} {pairs : List (String × α)} (h : (pairs.map (·.1)).Nodup)
    {pair : String × α} (hmem : pair ∈ pairs) : get? pair.1 (ofList pairs) = some pair.2 := by
  rw [get?_ofList]
  induction pairs with
  | nil => cases hmem
  | cons first rest ih =>
    obtain ⟨hfirst, hrest⟩ := List.nodup_cons.1 h
    rw [last?]
    rcases List.mem_cons.1 hmem with rfl | hmem
    · have hnone : last? (· == pair.1) rest = none := by
        refine Option.eq_none_iff_forall_not_mem.2 fun value hvalue => hfirst ?_
        obtain ⟨key, hkey, heq⟩ := mem_of_last? hvalue
        exact List.mem_map.2 ⟨(key, value), hkey, beq_iff_eq.1 heq⟩
      rw [hnone, beq_self_eq_true, Option.none_or, if_pos rfl]
    · rw [ih hrest hmem, Option.some_or]

end Dictionary

namespace Settings

/-- No two settings are written under one name. -/
theorem nodup_values (settings : Settings) (origin : Origin) :
    ((settings.values origin).map (·.1)).Nodup := by
  simp only [values, List.map_cons, List.map_nil]
  decide

/-- **A setting is read from what is written under its name.** -/
theorem readUnder_of_mem {settings : Settings} {origin : Origin} (field : Field) {value : Value}
    (hmem : (field.name, value) ∈ settings.values origin) {result : Except Misfit field.Content}
    (hread : field.read value = result) (default : field.Content) :
    readUnder (Dictionary.ofList (settings.values origin)) field default =
      result.mapError (·.under field.name) := by
  have hget := Dictionary.get?_ofList_of_mem (settings.nodup_values origin) hmem
  rw [readUnder_of_some field hget, hread]

/-- A whole number of a setting's range is read from its written form. -/
theorem readWord_ofInt {α : Type} {range : Text.IntegerRange} (hrange : range.IsNarrow)
    {number : Int} (h : range.contains number = true) (origin : Origin) (expected : Expected)
    (word : Int → α) :
    readWord range expected word (.scalar origin (.ofInt number)) = .ok (word number) := by
  have hread := Value.integer?_ofInt (hrange.isWhole h) origin
  rw [readWord, readNumber_of_integer? hread h]
  rfl

/-- **A setting that may be absent** is read from its written form if it is read where it is
given. -/
theorem readOptional_getD {α β : Type} {read : Value → Except Misfit α} {write : β → Scalar}
    {origin : Origin} {result : β → α} (hwrite : ∀ b, write b ≠ .absent)
    (hread : ∀ b, read (.scalar origin (write b)) = .ok (result b)) (given : Option β) :
    readOptional read (.scalar origin ((given.map write).getD .absent)) =
      .ok (given.map result) := by
  cases given with
  | none => rfl
  | some b =>
    change readOptional read (.scalar origin (write b)) = _
    unfold readOptional
    split
    · rename_i heq
      exact absurd (Value.scalar.inj heq).2 (hwrite b)
    · rw [hread]
      rfl

/-- A starting position is read from its written form, unless it is an explicit offset below
zero. -/
theorem readOptional_offset (offset : Option StartOffset) (origin : Origin) :
    ∃ misfit : Misfit,
      readOptional readOffset
          (.scalar origin ((offset.map fun offset => .text offset.text).getD .absent)) =
        if offset.any StartOffset.isNegative then .error misfit else .ok offset := by
  cases offset with
  | none => exact ⟨{ fault := .negativeOffset, origin }, rfl⟩
  | some offset =>
    let value : Value := .scalar origin (.text offset.text)
    have hvalue : value.startOffset? = some offset := offset.denoted?_text
    obtain ⟨fault, hread⟩ := readOffset_of_startOffset? hvalue
    refine ⟨{ fault, origin }, ?_⟩
    change (readOffset value).map some = _
    rw [hread, Option.any_some]
    split <;> rfl

/-- The client properties are read from their written form. -/
theorem readEntries_map (map : PropertyMap) (origin : Origin) :
    readEntries .empty (map.entries.map fun (key, value) => (key, .scalar origin (.text value))) =
      .ok map := by
  have hordered : Dictionary.Ordered (map.entries.map fun (key, value) =>
      (key, Value.scalar origin (.text value))) := List.pairwise_map.2 map.ordered
  obtain ⟨read, hread, hget⟩ :=
    readEntries_of_gives hordered (SettingsLayer.gives_map origin map.entries) .empty
  have hmap : read = map := PropertyMap.ext_get? fun key => by
    rw [hget, PropertyMap.get?_empty, Option.or_none]
    rfl
  rw [hread, hmap]

/-- **Every setting is read from its written form**, but for an explicit offset below zero. -/
theorem readUnder_values (settings : Settings) (origin : Origin) :
    ∀ field ∈ Field.byName, field.name ≠ Field.offset.name →
      readUnder (Dictionary.ofList (settings.values origin)) field (field.stored {}) =
        .ok (field.stored settings) := by
  apply Field.forall_mem_byName
  case brokers =>
    exact fun _ => readUnder_of_mem .brokers (List.mem_of_getElem? (i := 0) rfl) rfl _
  case groupId =>
    exact fun _ => readUnder_of_mem .groupId (List.mem_of_getElem? (i := 1) rfl) rfl _
  case consumerTopics =>
    have hread := readTopics_of_texts? (SettingsLayer.texts?_list origin settings.consumerTopics)
    exact fun _ => readUnder_of_mem .consumerTopics (List.mem_of_getElem? (i := 2) rfl) hread _
  case producerTopic =>
    exact fun _ => readUnder_of_mem .producerTopic (List.mem_of_getElem? (i := 3) rfl) rfl _
  case partition =>
    have hread := readOptional_getD (fun p : Int32 => Scalar.ofInt_ne_absent p.toInt)
      (fun p => readWord_ofInt (by decide) (SettingsLayer.contains_signed32 p) origin .signed32
        Int32.ofInt) settings.partition
    simp only [Int32.ofInt_toInt, Option.map_id'] at hread
    exact fun _ => readUnder_of_mem .partition (List.mem_of_getElem? (i := 4) rfl) hread _
  case offset => exact fun hname => absurd rfl hname
  case consumerTimeoutMs =>
    have hread := readWord_ofInt (by decide)
      (SettingsLayer.contains_unsigned64 settings.consumerTimeoutMs) origin .unsigned64
      (UInt64.ofNat ·.toNat)
    rw [Int.toNat_natCast, UInt64.ofNat_toNat] at hread
    exact fun _ => readUnder_of_mem .consumerTimeoutMs (List.mem_of_getElem? (i := 6) rfl) hread _
  case exitOnEof =>
    exact fun _ => readUnder_of_mem .exitOnEof (List.mem_of_getElem? (i := 7) rfl) rfl _
  case partitionCount =>
    have hread := readWord_ofInt (by decide)
      (SettingsLayer.contains_unsigned32 settings.partitionCount) origin .unsigned32
      (UInt32.ofNat ·.toNat)
    rw [Int.toNat_natCast, UInt32.ofNat_toNat] at hread
    exact fun _ => readUnder_of_mem .partitionCount (List.mem_of_getElem? (i := 8) rfl) hread _
  case debug =>
    have hwrite (text : String) : Scalar.text text ≠ .absent := nofun
    have htext (text : String) : readText (.scalar origin (.text text)) = .ok (id text) := rfl
    have hread := readOptional_getD hwrite htext settings.debug
    rw [Option.map_id] at hread
    exact fun _ => readUnder_of_mem .debug (List.mem_of_getElem? (i := 9) rfl) hread _
  case skipBytes =>
    have hread := readWord_ofInt (by decide)
      (SettingsLayer.contains_unsigned64 settings.skipBytes) origin .size
      (UInt64.ofNat ·.toNat)
    rw [Int.toNat_natCast, UInt64.ofNat_toNat] at hread
    exact fun _ => readUnder_of_mem .skipBytes (List.mem_of_getElem? (i := 10) rfl) hread _
  case kafka =>
    have hread := readEntries_map settings.kafka origin
    exact fun _ => readUnder_of_mem .kafka (List.mem_of_getElem? (i := 11) rfl) hread _

/-- **Settings are read back from their written form**, unless they start at an explicit offset
below zero. -/
theorem toOption_ofEntries_values (settings : Settings) (origin : Origin) :
    (ofEntries (Dictionary.ofList (settings.values origin))).toOption =
      if settings.offset.any StartOffset.isNegative then none else some settings := by
  have hmem : Field.offset ∈ Field.byName := by simp [Field.byName]
  obtain ⟨misfit, hread⟩ := readOptional_offset settings.offset origin
  have hoffset := readUnder_of_mem .offset (List.mem_of_getElem? (i := 5) rfl) hread none
  rw [ofEntries_of_others hmem (settings.readUnder_values origin)]
  change ((readUnder _ .offset none).map _).toOption = _
  rw [hoffset]
  split <;> rfl

/-- **Settings are read back from their document**, unless they start at an explicit offset below
zero. -/
theorem toOption_ofValue_document (settings : Settings) :
    (ofValue settings.document).toOption =
      if settings.offset.any StartOffset.isNegative then none else some settings :=
  settings.toOption_ofEntries_values .document

end Settings
end OctetRelay
