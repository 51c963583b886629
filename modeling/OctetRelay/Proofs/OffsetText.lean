/-
# The text of a starting position

A starting position passes between layers of settings as a text, a word or a
decimal integer.  Nothing is lost on the way: an integer is spelled by its own
text (`spells_toString`) and read back from it in every range that it lies in
(`readInteger_toString`), and a position is denoted by its own text
(`denoted?_text`), explicit offsets below zero included.

Reading a text goes one step further and refuses those offsets.  So what a
text denotes is told apart from what is read from it (`read_of_denoted?`).

Source: `from_str` and `fmt` of `StartOffset`; `SPEC_FULL.md` 14, the starting
position.
-/

import OctetRelay.Proofs.IntegerText
import OctetRelay.Proofs.Trimming
import OctetRelay.StartOffset

namespace OctetRelay

namespace Text

/-- An integer is written with its digits alone, or with a minus sign in front of them. -/
theorem toList_toString (number : Int) :
    (toString number).toList =
      if 0 ≤ number then Nat.toDigits 10 number.toNat
      else '-' :: Nat.toDigits 10 (-number).toNat := by
  cases number with
  | ofNat n =>
    have hpos : (0 : Int) ≤ .ofNat n := Int.natCast_nonneg n
    rw [if_pos hpos]
    exact String.toList_ofList
  | negSucc n =>
    rw [if_neg (Int.not_le.2 (Int.negSucc_lt_zero n))]
    change ("-" ++ String.ofList (Nat.toDigits 10 (n + 1))).toList = _
    simp only [String.toList_append, String.toList_ofList]
    rfl

/-- The decimal digits of a number are digits. -/
theorem isDigits_toDigits (number : Nat) : IsDigits (Nat.toDigits 10 number) where
  ne_nil := Nat.toDigits_ne_nil
  isDigit := fun _ hc => Nat.isDigit_of_mem_toDigits (by decide) (by decide) hc

/-- **An integer is spelled by its text.** -/
theorem spells_toString (number : Int) : Spells (toString number).toList number := by
  have hvalue (n : Nat) : Nat.ofDigitChars 10 (Nat.toDigits 10 n) 0 = n :=
    Nat.ofDigitChars_toDigits (by decide) (by decide)
  rw [toList_toString]
  split
  · rename_i hpos
    have hspells := Spells.plain (isDigits_toDigits number.toNat)
    rwa [hvalue, Int.toNat_of_nonneg hpos] at hspells
  · rename_i hneg
    have hspells := Spells.minus (isDigits_toDigits (-number).toNat)
    have hnumber : -((-number).toNat : Int) = number := by omega
    rwa [hvalue, hnumber] at hspells

/-- **An integer of a range is read back from its text.** -/
theorem readInteger_toString {range : IntegerRange} {number : Int}
    (h : range.contains number = true) :
    readInteger range (toString number).toList = .ok number := by
  refine readInteger_eq_ok_iff.2 ⟨spells_toString number, h, fun hbelow => ?_⟩
  rw [IntegerRange.contains_iff] at h
  rw [toList_toString, if_pos (by omega)]
  exact (isDigits_toDigits number.toNat).minus_not_mem

/-- A text without blank characters is not trimmed. -/
theorem trim_of_not_blank {text : String} (h : ∀ c ∈ text.toList, isBlank c = false) :
    trim text = text := by
  have htrimmed : IsTrimmed text.toList :=
    { head := fun c hc => h c (List.mem_of_head? hc)
      last := fun c hc => h c (List.mem_of_getLast? hc) }
  rw [trim, htrimmed.trimChars_eq, String.ofList_toList]

/-- A digit is no blank. -/
theorem isBlank_of_isDigit {c : Char} (h : c.isDigit = true) : isBlank c = false := by
  simp only [Char.isDigit, Bool.and_eq_true, decide_eq_true_eq, ge_iff_le, UInt32.le_iff_toNat_le]
    at h
  have hlow : 48 ≤ c.toNat := h.1
  have hhigh : c.toNat ≤ 57 := h.2
  simp only [isBlank, Bool.or_eq_false_iff, Bool.and_eq_false_iff, decide_eq_false_iff_not,
    beq_eq_false_iff_ne]
  omega

/-- A text that spells an integer is not trimmed. -/
theorem Spells.trim_eq {text : String} {number : Int} (h : Spells text.toList number) :
    trim text = text := by
  refine trim_of_not_blank fun c hc => ?_
  rcases h.mem hc with rfl | rfl | hdigit
  · rfl
  · rfl
  · exact isBlank_of_isDigit hdigit

/-- **What reads as an integer of a range lies in it.** -/
theorem contains_of_readInteger {range : IntegerRange} {digits : List Char} {number : Int}
    (h : readInteger range digits = .ok number) : range.contains number = true :=
  (readInteger_eq_ok_iff.1 h).2.1

end Text

namespace StartOffset

/-- Whether a position is an explicit offset below zero. -/
def isNegative : StartOffset → Bool
  | .explicit offset => offset < 0
  | .beginning | .ending | .stored => false

/-- The position that a text denotes, an explicit offset below zero included. -/
def denoted? (text : String) : Option StartOffset :=
  let trimmed := Text.trim text
  if trimmed = "beginning" then some .beginning
  else if trimmed = "end" then some .ending
  else if trimmed = "stored" then some .stored
  else (Text.readInteger .signed64 trimmed.toList).toOption.map fun n => .explicit (.ofInt n)

/-- A text that spells an integer is none of the words. -/
theorem ne_of_spells {text : String} {number : Int} (h : Text.Spells text.toList number) :
    text ≠ "beginning" ∧ text ≠ "end" ∧ text ≠ "stored" := by
  refine ⟨?_, ?_, ?_⟩ <;> rintro rfl
  · rcases h.mem (c := 'b') (by decide) with hc | hc | hc <;> cases hc
  · rcases h.mem (c := 'e') (by decide) with hc | hc | hc <;> cases hc
  · rcases h.mem (c := 's') (by decide) with hc | hc | hc <;> cases hc

/-- **A text that spells an integer denotes the explicit offset**, if that has a place in 64
bits. -/
theorem denoted?_of_spells {text : String} {number : Int}
    (h : Text.Spells (Text.trim text).toList number) :
    denoted? text =
      if Text.IntegerRange.signed64.contains number then some (.explicit (.ofInt number))
      else none := by
  obtain ⟨hbeginning, hending, hstored⟩ := ne_of_spells h
  simp only [denoted?, if_neg hbeginning, if_neg hending, if_neg hstored]
  split
  · rename_i hrange
    have hread : Text.readInteger .signed64 (Text.trim text).toList = .ok number :=
      Text.readInteger_eq_ok_iff.2 ⟨h, hrange, nofun⟩
    rw [hread]
    rfl
  · rename_i hrange
    cases hread : Text.readInteger .signed64 (Text.trim text).toList with
    | error fault => rfl
    | ok other =>
      obtain ⟨hother, hcontains, -⟩ := Text.readInteger_eq_ok_iff.1 hread
      rw [h.unique hother] at hrange
      exact absurd hcontains hrange

/-- An integer's own text denotes it as an offset. -/
theorem denoted?_toString (number : Int) :
    denoted? (toString number) =
      if Text.IntegerRange.signed64.contains number then some (.explicit (.ofInt number))
      else none := by
  have hspells := Text.spells_toString number
  refine denoted?_of_spells ?_
  rw [hspells.trim_eq]
  exact hspells

/-- An offset is in the range of its words. -/
theorem contains_toInt (offset : Int64) :
    Text.IntegerRange.signed64.contains offset.toInt = true := by
  have hlow := offset.le_toInt
  have hhigh := offset.toInt_lt
  rw [Text.IntegerRange.contains_iff]
  exact ⟨hlow, Int.le_sub_one_of_lt hhigh⟩

/-- **A position is denoted by its own text.** -/
@[simp] theorem denoted?_text (offset : StartOffset) : denoted? offset.text = some offset := by
  cases offset with
  | beginning => rfl
  | ending => rfl
  | stored => rfl
  | explicit offset =>
    rw [text, denoted?_toString, if_pos (contains_toInt offset), Int64.ofInt_toInt]

/-- Within the range of offsets a number is below zero just if its offset is. -/
theorem isNegative_ofInt {number : Int}
    (h : Text.IntegerRange.signed64.contains number = true) :
    isNegative (.explicit (.ofInt number)) = decide (number < 0) := by
  rw [Text.IntegerRange.contains_iff] at h
  have hnumber : (Int64.ofInt number).toInt = number :=
    Int64.toInt_ofInt_of_le h.1 (Int.lt_of_le_sub_one h.2)
  rw [isNegative, decide_eq_decide, Int64.lt_iff_toInt_lt, hnumber]
  rfl

/-- **Reading a text gives what it denotes, and refuses an explicit offset below zero.** -/
theorem read_of_denoted? {text : String} {offset : StartOffset} (h : denoted? text = some offset) :
    read text =
      if offset.isNegative then
        .error { key := "offset", value := Text.trim text, fault := .negativeOffset }
      else .ok offset := by
  by_cases hbeginning : Text.trim text = "beginning"
  · obtain rfl : .beginning = offset := by simpa [denoted?, hbeginning] using h
    simp [read, hbeginning, isNegative]
  by_cases hending : Text.trim text = "end"
  · obtain rfl : .ending = offset := by simpa [denoted?, hending] using h
    simp [read, hending, isNegative]
  by_cases hstored : Text.trim text = "stored"
  · obtain rfl : .stored = offset := by simpa [denoted?, hstored] using h
    simp [read, hstored, isNegative]
  simp only [denoted?, read, if_neg hbeginning, if_neg hending, if_neg hstored] at h ⊢
  cases hread : Text.readInteger .signed64 (Text.trim text).toList with
  | error fault =>
    rw [hread] at h
    cases h
  | ok number =>
    rw [hread] at h
    obtain rfl : .explicit (.ofInt number) = offset := Option.some.inj h
    simp only [isNegative_ofInt (Text.contains_of_readInteger hread), decide_eq_true_eq]

/-- A text that denotes no position is not read. -/
theorem exists_error_of_denoted? {text : String} (h : denoted? text = none) :
    ∃ setting, read text = .error setting := by
  have hbeginning : Text.trim text ≠ "beginning" := fun heq => by simp [denoted?, heq] at h
  have hending : Text.trim text ≠ "end" := fun heq => by simp [denoted?, heq] at h
  have hstored : Text.trim text ≠ "stored" := fun heq => by simp [denoted?, heq] at h
  simp only [denoted?, read, if_neg hbeginning, if_neg hending, if_neg hstored] at h ⊢
  cases hread : Text.readInteger .signed64 (Text.trim text).toList with
  | error fault => exact ⟨_, rfl⟩
  | ok number =>
    rw [hread] at h
    cases h

/-- **What is read is what is denoted**, without the explicit offsets below zero. -/
theorem toOption_read (text : String) :
    (read text).toOption = (denoted? text).filter fun offset => !offset.isNegative := by
  cases hdenoted : denoted? text with
  | none =>
    obtain ⟨setting, hread⟩ := exists_error_of_denoted? hdenoted
    rw [hread]
    rfl
  | some offset =>
    rw [read_of_denoted? hdenoted]
    cases hneg : offset.isNegative <;> simp [Except.toOption, Option.filter, hneg]

/-- No explicit offset below zero is read. -/
theorem isNegative_of_read {text : String} {offset : StartOffset} (h : read text = .ok offset) :
    offset.isNegative = false := by
  have hread := toOption_read text
  rw [h] at hread
  have hpos := (Option.filter_eq_some_iff.1 hread.symm).2
  simpa using hpos

end StartOffset
end OctetRelay
