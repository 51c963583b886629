/-
# Where an encoding ends

The encoding of an octet string tells by itself where it ends, so nothing can be
cut off it or put behind it unnoticed.  Each change meets a check of its own:

| change | what is noticed |
| --- | --- |
| a cut before or inside a determinant | no determinant can be read |
| a cut inside the octets it announces | octets are missing |
| a cut behind a fragment | no determinant can be read |
| octets put behind the end | octets are left over |

All of them come down to one fact: of two texts that start with an encoding and
are equal, both the encodings and the rests are equal (`Encodes.append_inj`).

Source: `decode_uper`; `SPEC_FULL.md` 14, the default codec.
-/

import OctetRelay.Proofs.Grammar

namespace OctetRelay
namespace Uper

/-- What follows an input does not change the determinant at its front. -/
theorem readLength_append {input rest : Octets} {length : Length}
    (h : readLength input = some (length, rest)) (tail : Octets) :
    readLength (input ++ tail) = some (length, rest ++ tail) := by
  rcases readLength_inversion h with ⟨n, hn, rfl, rfl⟩ | ⟨high, low, hhigh, rfl, rfl⟩ |
    ⟨units, hunits, rfl, rfl⟩
  · exact readLength_short hn (rest ++ tail)
  · exact readLength_long hhigh low (rest ++ tail)
  · exact readLength_fragment hunits (rest ++ tail)

/-- An encoding starts with its last determinant, or with that of a fragment which stands before
another encoding. -/
theorem Encodes.readLength {input content : Octets} (h : Encodes input content) :
    Uper.readLength input = some (.last content.length, content) ∨
      ∃ units octets input' content', Uper.readLength input =
        some (.fragment units, octets ++ input') ∧ octets.length = units * 16384 ∧
          Encodes input' content' := by
  cases h with
  | short hn hlength =>
    left
    rw [hlength]
    exact readLength_short hn content
  | @long high low _ hhigh hlength =>
    left
    rw [hlength]
    exact readLength_long hhigh low content
  | @fragment units octets input' content' hunits hlength hrest =>
    right
    exact ⟨units, octets, input', content', readLength_fragment hunits _, hlength, hrest⟩

/-- Equal texts that start with determinants start with the same one. -/
theorem readLength_inj {input other rest rest' tail tail' : Octets} {length length' : Length}
    (h : Uper.readLength input = some (length, rest))
    (h' : Uper.readLength other = some (length', rest')) (heq : input ++ tail = other ++ tail') :
    length = length' ∧ rest ++ tail = rest' ++ tail' := by
  have hwhole := readLength_append h tail
  rw [heq, readLength_append h' tail'] at hwhole
  obtain ⟨hlength, hrest⟩ := Prod.mk.inj (Option.some.inj hwhole)
  exact ⟨hlength.symm, hrest.symm⟩

/-- What follows a last determinant and its octets is known from the whole. -/
theorem tail_eq_of_last {input other content content' tail tail' : Octets}
    (hread : Uper.readLength input = some (.last content.length, content))
    (h' : Encodes other content') (heq : input ++ tail = other ++ tail') : tail = tail' := by
  rcases h'.readLength with hread' | ⟨units, octets, input', content'', hread', -, -⟩
  · obtain ⟨hlength, hrest⟩ := readLength_inj hread hread' heq
    exact (List.append_inj hrest (Length.last.inj hlength)).2
  · obtain ⟨hlength, -⟩ := readLength_inj hread hread' heq
    cases hlength

/-- **An encoding is told apart from what follows it**, whatever that is. -/
theorem Encodes.append_inj {input other content content' tail tail' : Octets}
    (h : Encodes input content) (h' : Encodes other content')
    (heq : input ++ tail = other ++ tail') : input = other ∧ tail = tail' := by
  have htail : tail = tail' := by
    induction h generalizing other content' with
    | @short n content hn hlength =>
      have hread := readLength_short hn content
      rw [← hlength] at hread
      exact tail_eq_of_last hread h' heq
    | @long high low content hhigh hlength =>
      have hread := readLength_long hhigh low content
      rw [← hlength] at hread
      exact tail_eq_of_last hread h' heq
    | @fragment units octets input content hunits hlength hrest ih =>
      have hread := readLength_fragment hunits (octets ++ input)
      rcases h'.readLength with
        hread' | ⟨units', octets', input', content'', hread', hlength', hrest'⟩
      · obtain ⟨hdiffer, -⟩ := readLength_inj hread hread' heq
        cases hdiffer
      · -- both start with a fragment of the same length, and the induction goes on behind it
        obtain ⟨hsame, hrests⟩ := readLength_inj hread hread' heq
        obtain rfl := Length.fragment.inj hsame
        rw [List.append_assoc, List.append_assoc] at hrests
        exact ih hrest' (List.append_inj hrests (hlength.trans hlength'.symm)).2
  subst htail
  exact ⟨List.append_cancel_right heq, rfl⟩

/-- No encoding is the beginning of another. -/
theorem Encodes.eq_of_front {input other content content' : Octets} (h : Encodes input content)
    (h' : Encodes other content') (hfront : input <+: other) : input = other := by
  obtain ⟨tail, htail⟩ := hfront
  have heq : input ++ tail = other ++ [] := by rw [htail, List.append_nil]
  exact (h.append_inj h' heq).1

/-- **Encodings are self-delimiting.**  Of an input that is decoded, no part cut off at its end is
decoded, wherever the cut falls, and neither is the input with any octets behind it.  In other words
no input that is decoded is a proper beginning of another one. -/
theorem decode_selfDelimiting {input content : Octets} (h : decode input = some content) :
    (∀ front, front <+: input → front ≠ input → decode front = none) ∧
      (∀ tail, tail ≠ [] → decode (input ++ tail) = none) ∧
        ∀ other content', decode other = some content' → input <+: other → other = input := by
  have hinput : Encodes input content := decode_eq_some_iff.1 h
  refine ⟨?_, ?_, ?_⟩
  · intro front hfront hne
    cases hdecode : decode front with
    | none => rfl
    | some content' =>
      have heq : front = input := (decode_eq_some_iff.1 hdecode).eq_of_front hinput hfront
      exact absurd heq hne
  · intro tail hne
    cases hdecode : decode (input ++ tail) with
    | none => rfl
    | some content' =>
      have heq : input = input ++ tail :=
        hinput.eq_of_front (decode_eq_some_iff.1 hdecode) (List.prefix_append input tail)
      exact absurd (List.self_eq_append_right.1 heq) hne
  · intro other content' hother hfront
    exact (hinput.eq_of_front (decode_eq_some_iff.1 hother) hfront).symm

/-- One fragment before an empty rest: the cut between the two is noticed, and so is an octet too
many. -/
theorem decode_selfDelimiting_one_unit :
    let octets : Octets := List.replicate 16384 0x5A
    decode (0xC1 :: (octets ++ [0])) = some octets ∧ decode (0xC1 :: octets) = none ∧
      decode (0xC1 :: (octets ++ [0]) ++ [0]) = none := by
  intro octets
  have hencodes : Encodes (0xC1 :: (octets ++ [0])) (octets ++ []) :=
    @Encodes.fragment 1 _ _ _ (by decide) List.length_replicate (.short (by decide) rfl)
  have hdecode : decode (0xC1 :: (octets ++ [0])) = some octets := by
    rw [hencodes.decode, List.append_nil]
  obtain ⟨hcut, htail, -⟩ := decode_selfDelimiting hdecode
  refine ⟨hdecode, hcut _ ?_ ?_, htail [0] (by decide)⟩
  · exact List.cons_prefix_cons.2 ⟨rfl, List.prefix_append octets [0]⟩
  · intro heq
    have hlength := congrArg List.length heq
    simp only [List.length_cons, List.length_append] at hlength
    omega

end Uper
end OctetRelay
