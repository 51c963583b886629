/-
# The forms of a starting position

A starting position is written and read in three forms:

| form | written | read |
| --- | --- | --- |
| text | `text` | `read` |
| number | the numeral of the offset | `Settings.readOffset` |
| setting in a document | `Settings.document` | `Settings.ofValue` |

They agree.  Which texts are read is told by a relation that does not read
(`Named`); a number is read just as its decimal digits are, over all whole numbers
of a document; and what is refused in each form is an explicit offset below
zero.

Source: the three ways to read a `StartOffset`; `SPEC_FULL.md` 14, the starting
position.
-/

import OctetRelay.Proofs.Documents

namespace OctetRelay
namespace StartOffset

/-- **What names a position**: one of three words, or a sign and digits whose number has a place in
64 bits and is not below zero.  A minus sign can stand in front of nothing but zeros. -/
inductive Named : String → StartOffset → Prop where
  | beginning : Named "beginning" .beginning
  | ending : Named "end" .ending
  | stored : Named "stored" .stored
  | explicit {text : String} {number : Int} (spells : Text.Spells text.toList number)
      (low : 0 ≤ number) (high : number ≤ 9223372036854775807) :
      Named text (.explicit (.ofInt number))

/-- A position is read just if it is denoted and no explicit offset below zero. -/
theorem read_eq_ok_iff_denoted? {text : String} {offset : StartOffset} :
    read text = .ok offset ↔ denoted? text = some offset ∧ offset.isNegative = false := by
  constructor
  · intro hread
    have hfilter := toOption_read text
    rw [hread] at hfilter
    have hdenoted := (Option.filter_eq_some_iff.1 hfilter.symm).1
    exact ⟨hdenoted, isNegative_of_read hread⟩
  · rintro ⟨hdenoted, hpos⟩
    rw [read_of_denoted? hdenoted, if_neg (by simp [hpos])]

/-- A text that denotes a position is a word or spells an offset of 64 bits. -/
theorem of_denoted? {text : String} {offset : StartOffset} (h : denoted? text = some offset) :
    Named (Text.trim text) offset ∨
      ∃ number : Int, Text.Spells (Text.trim text).toList number ∧
        Text.IntegerRange.signed64.contains number = true ∧ offset = .explicit (.ofInt number) := by
  unfold denoted? at h
  simp only at h
  split at h
  · rename_i hword
    obtain rfl := Option.some.inj h
    exact .inl (hword ▸ .beginning)
  split at h
  · rename_i hword
    obtain rfl := Option.some.inj h
    exact .inl (hword ▸ .ending)
  split at h
  · rename_i hword
    obtain rfl := Option.some.inj h
    exact .inl (hword ▸ .stored)
  obtain ⟨number, hnumber, hoffset⟩ := Option.map_eq_some_iff.1 h
  have hread : Text.readInteger .signed64 (Text.trim text).toList = .ok number := by
    cases hread : Text.readInteger .signed64 (Text.trim text).toList with
    | error fault => rw [hread] at hnumber; cases hnumber
    | ok other => rw [hread] at hnumber; exact congrArg _ (Option.some.inj hnumber)
  obtain ⟨hspells, hcontains, -⟩ := Text.readInteger_eq_ok_iff.1 hread
  exact .inr ⟨number, hspells, hcontains, hoffset.symm⟩

/-- **The texts that are read** are those that name a position once they are trimmed. -/
theorem read_eq_ok_iff {text : String} {offset : StartOffset} :
    read text = .ok offset ↔ Named (Text.trim text) offset := by
  rw [read_eq_ok_iff_denoted?]
  constructor
  · rintro ⟨hdenoted, hpos⟩
    obtain hnamed | ⟨number, hspells, hcontains, rfl⟩ := of_denoted? hdenoted
    · exact hnamed
    · rw [isNegative_ofInt hcontains, decide_eq_false_iff_not] at hpos
      exact .explicit hspells (by omega) (Text.IntegerRange.contains_signed64_iff.1 hcontains).2
  · generalize htrimmed : Text.trim text = trimmed
    intro hnamed
    cases hnamed with
    | beginning => exact ⟨by simp [denoted?, htrimmed], rfl⟩
    | ending => exact ⟨by simp [denoted?, htrimmed], rfl⟩
    | stored => exact ⟨by simp [denoted?, htrimmed], rfl⟩
    | @explicit _ number hspells hlow hhigh =>
      have hcontains := Text.IntegerRange.contains_signed64_iff.2 ⟨by omega, hhigh⟩
      subst htrimmed
      refine ⟨?_, ?_⟩
      · rw [denoted?_of_spells hspells, if_pos hcontains]
      · rw [isNegative_ofInt hcontains, decide_eq_false (by omega)]

/-- A position is read back from its text unless it is an explicit offset below zero. -/
theorem toOption_read_text (offset : StartOffset) :
    (read offset.text).toOption = if offset.isNegative then none else some offset := by
  rw [toOption_read, denoted?_text, Option.filter_some]
  cases offset.isNegative <;> rfl

/-- A number denotes the position that its decimal digits denote. -/
theorem startOffset?_of_integer? {value : Value} {number : Int}
    (h : value.integer? = some number) : value.startOffset? = denoted? (toString number) := by
  rw [denoted?_toString]
  unfold Value.integer? at h
  split at h
  · obtain rfl := Option.some.inj h
    simp only [Value.startOffset?, Text.IntegerRange.contains_signed64_natCast]
  · rename_i origin signed
    obtain rfl := Option.some.inj h
    rw [if_pos (contains_toInt signed), Int64.ofInt_toInt, Value.startOffset?]
  · cases h

/-- **A number is read as a position just as its decimal digits are.** -/
theorem toOption_readOffset {value : Value} {number : Int} (h : value.integer? = some number) :
    (Settings.readOffset value).toOption = (read (toString number)).toOption := by
  rw [Settings.toOption_readOffset, startOffset?_of_integer? h, toOption_read]

/-- **The forms of a starting position agree.**

* The texts that are read are those that name a position, blank characters around them apart.
* What was read from a text is read again from its own text.
* A position is read back from its text, and an explicit offset below zero is refused.
* A number is read just as its decimal digits are.
* Every whole number of a document is read from its numeral.
* Settings are read back from their document, and those with an explicit offset below zero are
  refused. -/
theorem forms_agree :
    (∀ text offset, read text = .ok offset ↔ Named (Text.trim text) offset) ∧
    (∀ text offset, read text = .ok offset → read offset.text = read text) ∧
    (∀ offset, (read offset.text).toOption = if offset.isNegative then none else some offset) ∧
    (∀ (value : Value) (number : Int), value.integer? = some number →
      (Settings.readOffset value).toOption = (read (toString number)).toOption) ∧
    (∀ number : Int, -9223372036854775808 ≤ number → number ≤ 18446744073709551615 →
      ∀ origin, (Value.scalar origin (Numeral.scalar (toString number).toList)).integer? =
        some number) ∧
    ∀ settings : Settings, (Settings.ofValue settings.document).toOption =
      if settings.offset.any isNegative then none else some settings := by
  refine ⟨fun _ _ => read_eq_ok_iff, fun text offset hread => ?_, toOption_read_text,
    fun _ _ => toOption_readOffset, fun number hlow hhigh origin => ?_,
    Settings.toOption_ofValue_document⟩
  · have hpos : offset.isNegative = false := isNegative_of_read hread
    rw [hread, read_eq_ok_iff_denoted?]
    exact ⟨offset.denoted?_text, hpos⟩
  · have hwhole : IsWhole number := isWhole_iff.2 ⟨hlow, hhigh⟩
    rw [Numeral.scalar_toString hwhole, Value.integer?_ofInt hwhole]

/-- A minus sign in front of zeros names the first offset, and the first number past the offsets is
refused with its digits. -/
theorem forms_agree_at_the_edges :
    read " -00\n" = .ok (.explicit 0) ∧
    (Settings.readOffset (.scalar .document (.ofInt 9223372036854775808))).toOption =
      (read "9223372036854775808").toOption ∧
    (Value.scalar .document
      (Numeral.scalar (toString (18446744073709551615 : Int)).toList)).integer? =
      some 18446744073709551615 := by
  obtain ⟨htexts, -, -, hnumbers, hnumerals, -⟩ := forms_agree
  have htrim : Text.trim " -00\n" = "-00" := by decide
  have hdigits : Text.IsDigits ['0', '0'] := { ne_nil := nofun, isDigit := by simp }
  have hspells : Text.Spells "-00".toList 0 := .minus hdigits
  have hnamed : Named "-00" (.explicit 0) := .explicit hspells (by omega) (by omega)
  refine ⟨(htexts _ _).2 (htrim ▸ hnamed), ?_, ?_⟩
  · have hwhole : IsWhole 9223372036854775808 := isWhole_iff.2 ⟨by omega, by omega⟩
    exact hnumbers _ 9223372036854775808 (Value.integer?_ofInt hwhole .document)
  · exact hnumerals 18446744073709551615 (by omega) (by omega) .document

end StartOffset
end OctetRelay
