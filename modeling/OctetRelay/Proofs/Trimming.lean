/-
# What trimming keeps

Trimming takes the blank characters off the two ends of a text and nothing else.
So blank characters at the ends make no difference to it (`trimChars_append`),
its results are just the texts that have none there (`IsTrimmed`), and a
character that is not blank stands between two trimmings of its own:

| text | trimmed |
| --- | --- |
| `front ++ text ++ back`, `front` and `back` blank | as `text` |
| `text` without blank ends | `text` |
| `front ++ c :: back`, `c` not blank | `front` at its start, `c`, `back` at its end |

Source: `parse` of properties; `SPEC_FULL.md` 11, blanks around key and value.
-/

import Mathlib.Data.List.TakeWhile
import OctetRelay.Text.Blank

namespace OctetRelay
namespace Text

/-- A text without a blank character at either end. -/
structure IsTrimmed (text : List Char) : Prop where
  head : ∀ c ∈ text.head?, isBlank c = false
  last : ∀ c ∈ text.getLast?, isBlank c = false

variable {text front back : List Char}

/-! ## One end -/

/-- Blanks in front are dropped. -/
theorem trimStart_append (h : ∀ c ∈ front, isBlank c = true) (text : List Char) :
    trimStart (front ++ text) = trimStart text :=
  List.dropWhile_append_of_pos h

/-- Nothing is left of blanks alone. -/
theorem trimStart_eq_nil (h : ∀ c ∈ text, isBlank c = true) : trimStart text = [] :=
  List.dropWhile_eq_nil_iff.2 h

/-- A text that starts with no blank is left alone. -/
theorem trimStart_of_head (h : ∀ c ∈ text.head?, isBlank c = false) : trimStart text = text := by
  cases text with
  | nil => rfl
  | cons c rest =>
    have hc : isBlank c = false := h c rfl
    exact List.dropWhile_cons_of_neg (by simp [hc])

/-- What is left is the end of the text. -/
theorem trimStart_isSuffix (text : List Char) : trimStart text <:+ text :=
  List.dropWhile_suffix isBlank

/-- What is taken off the start of a text is blank. -/
theorem exists_trimStart (text : List Char) :
    ∃ front, (∀ c ∈ front, isBlank c = true) ∧ front ++ trimStart text = text :=
  ⟨text.takeWhile isBlank, fun _ hc => List.mem_takeWhile_imp hc,
    List.takeWhile_append_dropWhile⟩

/-- What is left starts with no blank. -/
theorem head_trimStart (text : List Char) : ∀ c ∈ (trimStart text).head?, isBlank c = false := by
  intro c hc
  have hhead := List.head?_dropWhile_not isBlank text
  have hsome : (text.dropWhile isBlank).head? = some c := hc
  rw [hsome] at hhead
  exact hhead

/-- Blanks behind are dropped. -/
theorem trimEnd_append (h : ∀ c ∈ back, isBlank c = true) (text : List Char) :
    trimEnd (text ++ back) = trimEnd text := by
  have hreverse : ∀ c ∈ back.reverse, isBlank c = true := fun c hc => h c (List.mem_reverse.1 hc)
  rw [trimEnd, List.reverse_append, trimStart_append hreverse]
  rfl

/-- A text that ends in no blank is left alone. -/
theorem trimEnd_of_last (h : ∀ c ∈ text.getLast?, isBlank c = false) : trimEnd text = text := by
  have hhead : ∀ c ∈ text.reverse.head?, isBlank c = false := by
    rw [List.head?_reverse]
    exact h
  rw [trimEnd, trimStart_of_head hhead, List.reverse_reverse]

/-- Only blanks are dropped behind. -/
theorem exists_trimEnd (text : List Char) :
    ∃ back, (∀ c ∈ back, isBlank c = true) ∧ trimEnd text ++ back = text := by
  obtain ⟨front, hfront, htext⟩ := exists_trimStart text.reverse
  refine ⟨front.reverse, fun c hc => hfront c (List.mem_reverse.1 hc), ?_⟩
  rw [trimEnd, ← List.reverse_append, htext, List.reverse_reverse]

/-- What is left is the front of the text. -/
theorem trimEnd_isPrefix (text : List Char) : trimEnd text <+: text := by
  obtain ⟨back, -, htext⟩ := exists_trimEnd text
  exact ⟨back, htext⟩

/-- Trimming the end leaves the first character, if any. -/
theorem head_trimEnd {c : Char} (h : c ∈ (trimEnd text).head?) : c ∈ text.head? := by
  obtain ⟨back, hback⟩ := trimEnd_isPrefix text
  have hend : (trimEnd text).head? = some c := h
  rw [← hback, List.head?_append, hend]
  rfl

/-- What is left ends in no blank. -/
theorem last_trimEnd (text : List Char) : ∀ c ∈ (trimEnd text).getLast?, isBlank c = false := by
  rw [trimEnd, List.getLast?_reverse]
  exact head_trimStart text.reverse

/-! ## Both ends -/

/-- Blanks in front do not matter. -/
theorem trimChars_append_left (h : ∀ c ∈ front, isBlank c = true) (text : List Char) :
    trimChars (front ++ text) = trimChars text := by
  rw [trimChars, trimStart_append h]
  rfl

/-- Blanks behind do not matter. -/
theorem trimChars_append_right (h : ∀ c ∈ back, isBlank c = true) (text : List Char) :
    trimChars (text ++ back) = trimChars text := by
  have hstart : trimStart (text ++ back) =
      if (trimStart text).isEmpty then trimStart back else trimStart text ++ back :=
    List.dropWhile_append
  rw [trimChars, hstart, trimChars]
  split
  · rename_i hempty
    rw [trimStart_eq_nil h, List.isEmpty_iff.1 hempty]
  · exact trimEnd_append h _

/-- **Blank characters at the ends of a text make no difference to trimming.** -/
theorem trimChars_append (hfront : ∀ c ∈ front, isBlank c = true)
    (hback : ∀ c ∈ back, isBlank c = true) (text : List Char) :
    trimChars (front ++ text ++ back) = trimChars text := by
  rw [trimChars_append_right hback, trimChars_append_left hfront]

/-- Trimming in front first makes no difference. -/
theorem trimChars_trimStart (text : List Char) : trimChars (trimStart text) = trimChars text := by
  obtain ⟨front, hfront, htext⟩ := exists_trimStart text
  rw [← trimChars_append_left hfront, htext]

/-- Trimming behind first makes no difference. -/
theorem trimChars_trimEnd (text : List Char) : trimChars (trimEnd text) = trimChars text := by
  obtain ⟨back, hback, htext⟩ := exists_trimEnd text
  rw [← trimChars_append_right hback, htext]

/-- A text without blank ends is not trimmed. -/
theorem IsTrimmed.trimChars_eq (h : IsTrimmed text) : trimChars text = text := by
  rw [trimChars, trimStart_of_head h.head, trimEnd_of_last h.last]

/-- **A trimmed text has no blank ends.** -/
theorem isTrimmed_trimChars (text : List Char) : IsTrimmed (trimChars text) where
  head := fun c hc => head_trimStart text c (head_trimEnd hc)
  last := last_trimEnd (trimStart text)

/-- Trimming adds no characters. -/
theorem mem_of_mem_trimChars {c : Char} (h : c ∈ trimChars text) : c ∈ text :=
  (trimStart_isSuffix text).mem ((trimEnd_isPrefix _).mem h)

/-- A text of blank characters is trimmed away. -/
theorem trimChars_eq_nil (h : ∀ c ∈ text, isBlank c = true) : trimChars text = [] := by
  rw [trimChars, trimStart_eq_nil h]
  rfl

/-- **A character that is not blank keeps the two trimmings apart.** -/
theorem trimChars_append_cons {c : Char} (h : isBlank c = false) (front back : List Char) :
    trimChars (front ++ c :: back) = trimStart front ++ c :: trimEnd back := by
  obtain ⟨before, hbefore, hfront⟩ := exists_trimStart front
  obtain ⟨after, hafter, hback⟩ := exists_trimEnd back
  have hsplit : before ++ (trimStart front ++ c :: trimEnd back) ++ after = front ++ c :: back := by
    calc before ++ (trimStart front ++ c :: trimEnd back) ++ after
        = (before ++ trimStart front) ++ c :: (trimEnd back ++ after) := by
          simp only [List.append_assoc, List.cons_append]
      _ = front ++ c :: back := by rw [hfront, hback]
  -- Either side may be blank altogether; then `c` is the first or the last character.
  have htrimmed : IsTrimmed (trimStart front ++ c :: trimEnd back) := by
    constructor
    · intro d hd
      cases hstart : trimStart front with
      | nil =>
        rw [hstart] at hd
        obtain rfl : c = d := Option.some.inj hd
        exact h
      | cons e rest =>
        rw [hstart] at hd
        exact head_trimStart front d (hstart ▸ hd)
    · intro d hd
      rw [List.getLast?_append, List.getLast?_cons, Option.some_or] at hd
      cases hend : (trimEnd back).getLast? with
      | none =>
        rw [hend] at hd
        obtain rfl : c = d := Option.some.inj hd
        exact h
      | some e =>
        rw [hend] at hd
        obtain rfl : e = d := Option.some.inj hd
        exact last_trimEnd back e hend
  rw [← hsplit, trimChars_append hbefore hafter, htrimmed.trimChars_eq]

end Text
end OctetRelay
