/-
# Pieces of a text

`pieces sep text` are the runs between the separators, empty runs included, so
there is always one more piece than there are separators.

Source: `parse` of properties; `SPEC_FULL.md` 11, pieces on `=`.
-/

namespace OctetRelay
namespace Text

/-- The pieces between the occurrences of a separator. -/
def pieces (sep : Char) : List Char → List (List Char)
  | [] => [[]]
  | c :: rest =>
    if c = sep then [] :: pieces sep rest
    else
      match pieces sep rest with
      | [] => [[c]]
      | piece :: others => (c :: piece) :: others

/-- The empty text is one empty piece. -/
@[simp] theorem pieces_nil (sep : Char) : pieces sep [] = [[]] := rfl

/-- There is always a first piece. -/
theorem pieces_ne_nil (sep : Char) (text : List Char) : pieces sep text ≠ [] := by
  cases text with
  | nil => simp
  | cons c rest =>
    rw [pieces]
    split
    · simp
    · split <;> simp

/-- A separator in front ends an empty piece. -/
theorem pieces_cons_sep (sep : Char) (rest : List Char) :
    pieces sep (sep :: rest) = [] :: pieces sep rest := by
  simp [pieces]

/-- **A separator between two texts** separates their pieces. -/
theorem pieces_append_sep (sep : Char) (front back : List Char) :
    pieces sep (front ++ sep :: back) = pieces sep front ++ pieces sep back := by
  induction front with
  | nil => simp [pieces_cons_sep]
  | cons c rest ih =>
    simp only [List.cons_append, pieces, ih]
    split
    · rfl
    · cases h : pieces sep rest with
      | nil => exact absurd h (pieces_ne_nil sep rest)
      | cons piece others => rfl

variable {sep c : Char} {text front back : List Char}

/-- A character that is no separator belongs to the first piece. -/
theorem exists_pieces_cons (h : c ≠ sep) (text : List Char) :
    ∃ piece others, pieces sep text = piece :: others ∧
      pieces sep (c :: text) = (c :: piece) :: others := by
  rw [pieces, if_neg h]
  cases hpieces : pieces sep text with
  | nil => exact absurd hpieces (pieces_ne_nil sep text)
  | cons piece others => exact ⟨piece, others, rfl, rfl⟩

/-- The first of several pieces is empty only if the text starts with a separator. -/
theorem eq_sep_cons_of_pieces {piece : List Char} {others : List (List Char)}
    (h : pieces sep text = [] :: piece :: others) : ∃ rest, text = sep :: rest := by
  cases text with
  | nil => cases h
  | cons c rest =>
    by_cases hc : c = sep
    · exact ⟨rest, hc ▸ rfl⟩
    · obtain ⟨first, behind, -, hcons⟩ := exists_pieces_cons hc rest
      rw [hcons] at h
      cases h

/-- A text without separators is one piece. -/
theorem pieces_of_not_mem (h : sep ∉ text) : pieces sep text = [text] := by
  induction text with
  | nil => rfl
  | cons c rest ih =>
    obtain ⟨hc, hrest⟩ := not_or.1 (mt List.mem_cons.2 h)
    obtain ⟨piece, others, hpieces, hcons⟩ := exists_pieces_cons (Ne.symm hc) rest
    rw [ih hrest] at hpieces
    obtain ⟨rfl, rfl⟩ := List.cons.inj hpieces
    exact hcons

/-- There is one more piece than there are separators. -/
theorem length_pieces (sep : Char) (text : List Char) :
    (pieces sep text).length = text.count sep + 1 := by
  induction text with
  | nil => rfl
  | cons c rest ih =>
    by_cases hc : c = sep
    · subst hc
      rw [pieces_cons_sep, List.length_cons, ih, List.count_cons_self]
    · obtain ⟨piece, others, hpieces, hcons⟩ := exists_pieces_cons hc rest
      rw [hpieces] at ih
      rw [hcons, List.count_cons_of_ne hc]
      exact ih

/-- A separator that stands alone cuts a text in two. -/
theorem pieces_of_alone (hfront : sep ∉ front) (hback : sep ∉ back) :
    pieces sep (front ++ sep :: back) = [front, back] := by
  rw [pieces_append_sep, pieces_of_not_mem hfront, pieces_of_not_mem hback]
  rfl

/-- A separator that stands alone has a front and a back without any. -/
theorem count_eq_one_iff : text.count sep = 1 ↔
    ∃ front back, text = front ++ sep :: back ∧ sep ∉ front ∧ sep ∉ back := by
  constructor
  · intro h
    have hmem : sep ∈ text := List.count_pos_iff.1 (by omega)
    obtain ⟨front, back, htext, hfront⟩ := List.eq_append_cons_of_mem hmem
    refine ⟨front, back, htext, hfront, ?_⟩
    rw [htext, List.count_append, List.count_cons_self] at h
    exact List.count_eq_zero.1 (by omega)
  · rintro ⟨front, back, rfl, hfront, hback⟩
    rw [List.count_append, List.count_cons_self, List.count_eq_zero.2 hfront,
      List.count_eq_zero.2 hback]

/-- No piece has a separator. -/
theorem not_mem_of_mem_pieces {piece : List Char} (h : piece ∈ pieces sep text) : sep ∉ piece := by
  induction text generalizing piece with
  | nil =>
    obtain rfl := List.mem_singleton.1 h
    exact List.not_mem_nil
  | cons c rest ih =>
    by_cases hc : c = sep
    · subst hc
      rw [pieces_cons_sep] at h
      rcases List.mem_cons.1 h with rfl | hrest
      · exact List.not_mem_nil
      · exact ih hrest
    · obtain ⟨first, others, hpieces, hcons⟩ := exists_pieces_cons hc rest
      rw [hpieces] at ih
      rw [hcons] at h
      rcases List.mem_cons.1 h with rfl | hothers
      · rintro (_ | ⟨_, hfirst⟩)
        · exact hc rfl
        · exact ih List.mem_cons_self hfirst
      · exact ih (List.mem_cons_of_mem _ hothers)

end Text
end OctetRelay
