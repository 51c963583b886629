/-
# The encodings of an octet string

`Encodes` says, rule by rule, which strings of octets encode which content.  The
decoder accepts just these (`decode_eq_some_iff`): what it reads off the front
of its input is the determinant of a rule (`readLength_inversion`), and each
rule's determinant is read back (`readLength_short`, `readLength_long` and
`readLength_fragment`).

Source: `decode_uper`; `SPEC_FULL.md` 14, the default codec.
-/

import Mathlib.Tactic.SplitIfs
import OctetRelay.Codec

namespace OctetRelay
namespace Uper

/-- Octets that encode a content. -/
inductive Encodes : Octets → Octets → Prop where
  /-- Fewer than 128 octets follow an octet that counts them. -/
  | short {n : UInt8} {content : Octets} (hn : n < 128) (hlength : content.length = n.toNat) :
    Encodes (n :: content) content
  /-- Fewer than 16384 octets follow two octets that count them. -/
  | long {high : Nat} {low : UInt8} {content : Octets} (hhigh : high < 64)
    (hlength : content.length = 256 * high + low.toNat) :
    Encodes (.ofNat (0x80 + high) :: low :: content) content
  /-- One to four units of 16384 octets stand before the encoding of what remains. -/
  | fragment {units : Nat} {octets input content : Octets} (hunits : 1 ≤ units ∧ units ≤ 4)
    (hlength : octets.length = units * 16384) (hrest : Encodes input content) :
    Encodes (.ofNat (0xC0 + units) :: (octets ++ input)) (octets ++ content)

/-- One octet below 128 is the length of a last part. -/
theorem readLength_short {n : UInt8} (hn : n < 128) (rest : Octets) :
    readLength (n :: rest) = some (.last n.toNat, rest) := by
  have hlt : n.toNat < 128 := UInt8.lt_iff_toNat_lt.1 hn
  exact if_pos hlt

/-- Two octets with the mark `10` are a length of 14 bits. -/
theorem readLength_long {high : Nat} (hhigh : high < 64) (low : UInt8) (rest : Octets) :
    readLength (.ofNat (0x80 + high) :: low :: rest) =
      some (.last (256 * high + low.toNat), rest) := by
  have hfirst : (UInt8.ofNat (0x80 + high)).toNat = 0x80 + high :=
    UInt8.toNat_ofNat_of_lt' (by simp only [UInt8.size]; omega)
  simp only [readLength, hfirst]
  rw [if_neg (by omega), if_pos (by omega), Nat.add_sub_cancel_left]

/-- One octet with the mark `11` is the number of units of a fragment. -/
theorem readLength_fragment {units : Nat} (hunits : 1 ≤ units ∧ units ≤ 4) (rest : Octets) :
    readLength (.ofNat (0xC0 + units) :: rest) = some (.fragment units, rest) := by
  have hfirst : (UInt8.ofNat (0xC0 + units)).toNat = 0xC0 + units :=
    UInt8.toNat_ofNat_of_lt' (by simp only [UInt8.size]; omega)
  simp only [readLength, hfirst]
  rw [if_neg (by omega), if_neg (by omega), if_pos (by omega), Nat.add_sub_cancel_left]

/-- **What is read is a rule's determinant**: no other octets announce a length. -/
theorem readLength_inversion {input rest : Octets} {length : Length}
    (h : readLength input = some (length, rest)) :
    (∃ n : UInt8, n < 128 ∧ length = .last n.toNat ∧ input = n :: rest) ∨
      (∃ (high : Nat) (low : UInt8), high < 64 ∧ length = .last (256 * high + low.toNat) ∧
        input = .ofNat (0x80 + high) :: low :: rest) ∨
      ∃ units, (1 ≤ units ∧ units ≤ 4) ∧ length = .fragment units ∧
        input = .ofNat (0xC0 + units) :: rest := by
  cases input with
  | nil => cases h
  | cons first tail =>
    simp only [readLength] at h
    split_ifs at h with hshort hlong hfragment
    · obtain ⟨rfl, rfl⟩ := Prod.mk.inj (Option.some.inj h)
      exact .inl ⟨first, UInt8.lt_iff_toNat_lt.2 hshort, rfl, rfl⟩
    · cases tail with
      | nil => cases h
      | cons second tail =>
        obtain ⟨rfl, rfl⟩ := Prod.mk.inj (Option.some.inj h)
        refine .inr (.inl ⟨first.toNat - 0x80, second, by omega, rfl, ?_⟩)
        rw [Nat.add_sub_cancel' (by omega), UInt8.ofNat_toNat]
    · obtain ⟨rfl, rfl⟩ := Prod.mk.inj (Option.some.inj h)
      refine .inr (.inr ⟨first.toNat - 0xC0, by omega, rfl, ?_⟩)
      rw [Nat.add_sub_cancel' (by omega), UInt8.ofNat_toNat]

/-- Nothing is decoded without a determinant. -/
theorem decode_of_none {input : Octets} (h : readLength input = none) : decode input = none := by
  rw [decode]
  split <;> simp_all

/-- The last determinant announces just the octets that remain. -/
theorem decode_of_last {input rest : Octets} {count : Nat}
    (h : readLength input = some (.last count, rest)) :
    decode input = if rest.length = count then some rest else none := by
  rw [decode]
  split <;> simp_all

/-- A fragment's octets come before the content of what follows them. -/
theorem decode_of_fragment {input rest : Octets} {units : Nat}
    (h : readLength input = some (.fragment units, rest)) :
    decode input =
      if rest.length < units * fragmentUnit then none
      else (decode (rest.drop (units * fragmentUnit))).map
        (rest.take (units * fragmentUnit) ++ ·) := by
  rw [decode]
  split <;> simp_all

/-- Octets that follow the last determinant are encoded with it. -/
theorem Encodes.of_last {input content : Octets}
    (h : readLength input = some (.last content.length, content)) : Encodes input content := by
  rcases readLength_inversion h with ⟨n, hn, hlength, rfl⟩ | ⟨high, low, hhigh, hlength, rfl⟩ |
    ⟨units, -, hlength, -⟩
  · exact .short hn (Length.last.inj hlength)
  · exact .long hhigh (Length.last.inj hlength)
  · cases hlength

/-- A fragment whose octets are all there is encoded before what follows it. -/
theorem Encodes.of_fragment {input rest content : Octets} {units : Nat}
    (h : readLength input = some (.fragment units, rest))
    (hlength : units * fragmentUnit ≤ rest.length)
    (hrest : Encodes (rest.drop (units * fragmentUnit)) content) :
    Encodes input (rest.take (units * fragmentUnit) ++ content) := by
  rcases readLength_inversion h with ⟨n, -, hread, -⟩ | ⟨high, low, -, hread, -⟩ |
    ⟨units', hunits, hread, hinput⟩
  · cases hread
  · cases hread
  · obtain rfl := Length.fragment.inj hread
    have hoctets : (rest.take (units * fragmentUnit)).length = units * 16384 :=
      List.length_take_of_le hlength
    rw [← List.take_append_drop (units * fragmentUnit) rest] at hinput
    rw [hinput]
    exact .fragment hunits hoctets hrest

/-- **What is decoded was encoded.** -/
theorem encodes_of_decode {input content : Octets} (h : decode input = some content) :
    Encodes input content := by
  induction input using decode.induct generalizing content with
  | case1 input hread =>
    rw [decode_of_none hread] at h
    cases h
  | case2 input rest hread =>
    rw [decode_of_last hread, if_pos rfl] at h
    obtain rfl := Option.some.inj h
    exact .of_last hread
  | case3 input count rest hread hlength =>
    rw [decode_of_last hread, if_neg hlength] at h
    cases h
  | case4 input units rest hread _ hlength =>
    rw [decode_of_fragment hread, if_pos hlength] at h
    cases h
  | case5 input units rest hread _ hlength ih =>
    rw [decode_of_fragment hread, if_neg hlength] at h
    obtain ⟨content, hcontent, rfl⟩ := Option.map_eq_some_iff.1 h
    exact .of_fragment hread (Nat.le_of_not_lt hlength) (ih hcontent)

/-- **What is encoded is decoded.** -/
theorem Encodes.decode {input content : Octets} (h : Encodes input content) :
    decode input = some content := by
  induction h with
  | short hn hlength => rw [decode_of_last (readLength_short hn _), if_pos hlength]
  | long hhigh hlength => rw [decode_of_last (readLength_long hhigh _ _), if_pos hlength]
  | @fragment units octets input content hunits hlength hrest ih =>
    have hunit : octets.length = units * fragmentUnit := hlength
    rw [decode_of_fragment (readLength_fragment hunits _), if_neg (by simp [hunit]), ← hunit,
      List.drop_left, List.take_left, ih]
    rfl

/-- **The decoder accepts exactly the encodings**, each with its content. -/
theorem decode_eq_some_iff {input content : Octets} :
    decode input = some content ↔ Encodes input content :=
  ⟨encodes_of_decode, Encodes.decode⟩

/-- An encoding has one content. -/
theorem Encodes.content_unique {input content content' : Octets} (h : Encodes input content)
    (h' : Encodes input content') : content = content' :=
  Option.some.inj (h.decode.symm.trans h'.decode)

end Uper

/-- **The codec of an octet string decodes exactly its encodings**, of the first block of a stream
without the octets to skip, if it has so many. -/
theorem Codec.octetString_decode_iff (skipped : UInt64) (payload content : Octets) :
    let codec := octetString skipped
    (codec.decode payload false = some content ↔ Uper.Encodes payload content) ∧
      codec.decode payload true =
        if skipped.toNat ≤ payload.length then codec.decode (payload.drop skipped.toNat) false
        else none := by
  intro codec
  refine ⟨Uper.decode_eq_some_iff, ?_⟩
  simp only [codec, octetString, skip, if_true]
  split <;> rfl

/-- A fragment of 16384 octets and an encoding of two more encode them all. -/
example (octets : Octets) (h : octets.length = 16384) :
    Uper.Encodes (0xC1 :: (octets ++ [2, 0x22, 0x33])) (octets ++ [0x22, 0x33]) :=
  @Uper.Encodes.fragment 1 _ _ _ (by decide) h (.short (by decide) rfl)

end OctetRelay
