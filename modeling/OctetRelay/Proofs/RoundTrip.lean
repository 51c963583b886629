/-
# Round trips

The canonical encoding of an octet string cuts off the largest fragments while a
whole unit remains, and puts what is left, possibly nothing, behind the shortest
determinant that holds its length:

| octets left | determinant |
| --- | --- |
| `16384` or more | `C0 + m` before `16384 m` octets, `m = min 4 (left / 16384)` |
| `128` to `16383` | two octets, `80 + left / 256` and `left % 256` |
| fewer than `128` | one octet, their number |

It is one of the encodings of the grammar (`encodes_encode`), so the decoder gives
its content back, and a transcoder turns it into the element of its content
(`transcode_encode`).  What stands between the tags of the element is said place by
place (`IsUpperHex`): the digits of the octet at `i` are at `2 i` and `2 i + 1`, and
each of them is the one at the place of its value in `0123456789ABCDEF`.

Source: `OctetStringCodec`; `SPEC_FULL.md` 14, the default codec; the table is the length
determinant of X.691 with its fragmentation, the digits are the content of X.693.
-/

import OctetRelay.Proofs.Grammar
import OctetRelay.Transcoder

namespace OctetRelay

namespace Octets

/-- The hexadecimal digits in upper case, each at the place of its value. -/
def hexDigits : Octets := ofAscii "0123456789ABCDEF"

/-- **Digits spell octets in upper-case hexadecimal**: two for each octet, that of its higher half
before that of its lower half. -/
structure IsUpperHex (octets digits : Octets) : Prop where
  length : digits.length = 2 * octets.length
  high : ∀ index octet, octets[index]? = some octet →
    digits[2 * index]? = hexDigits[octet.toNat / 16]?
  low : ∀ index octet, octets[index]? = some octet →
    digits[2 * index + 1]? = hexDigits[octet.toNat % 16]?

/-- The digit of a value stands at its place among the digits. -/
theorem hexDigits_at {value : Nat} (h : value < 16) :
    hexDigits[value]? = some (upperDigit value) := by
  have cases : ∀ v : Fin 16, hexDigits[v.val]? = some (upperDigit v.val) := by decide
  exact cases ⟨value, h⟩

/-- The digits at an even place and behind it are those of one octet. -/
theorem upperHex_at {octets : Octets} {index : Nat} {octet : UInt8}
    (h : octets[index]? = some octet) :
    (upperHex octets)[2 * index]? = some (upperDigit (octet.toNat / 16)) ∧
      (upperHex octets)[2 * index + 1]? = some (upperDigit (octet.toNat % 16)) := by
  induction octets generalizing index with
  | nil => cases h
  | cons first rest ih =>
    cases index with
    | zero =>
      obtain rfl := Option.some.inj h
      exact ⟨rfl, rfl⟩
    | succ index =>
      rw [show 2 * (index + 1) = 2 * index + 1 + 1 by omega]
      exact ih h

/-- **The spelling of octets** is theirs in upper-case hexadecimal. -/
theorem isUpperHex_upperHex (octets : Octets) : IsUpperHex octets (upperHex octets) where
  length := length_upperHex octets
  high := fun index octet h => by
    have hoctet := octet.toNat_lt
    rw [(upperHex_at h).1, hexDigits_at (by omega)]
  low := fun index octet h => by
    rw [(upperHex_at h).2, hexDigits_at (Nat.mod_lt _ (by decide))]

end Octets

namespace Uper

/-- While a unit remains, a fragment is one to four units long, and no longer than what remains. -/
theorem units_bounds {count : Nat} (h : fragmentUnit ≤ count) :
    (1 ≤ min 4 (count / fragmentUnit) ∧ min 4 (count / fragmentUnit) ≤ 4) ∧
      min 4 (count / fragmentUnit) * fragmentUnit ≤ count := by
  have hone : 1 ≤ count / fragmentUnit := (Nat.one_le_div_iff (by decide)).2 h
  have hwhole : count / fragmentUnit * fragmentUnit ≤ count := Nat.div_mul_le_self ..
  have hle : min 4 (count / fragmentUnit) * fragmentUnit ≤ count / fragmentUnit * fragmentUnit :=
    Nat.mul_le_mul_right _ (Nat.min_le_right ..)
  omega

/-- While a unit remains, the largest fragment comes first. -/
theorem encode_of_unit_le {content : Octets} (h : fragmentUnit ≤ content.length) :
    let size := min 4 (content.length / fragmentUnit) * fragmentUnit
    encode content = .ofNat (0xC0 + min 4 (content.length / fragmentUnit)) ::
      (content.take size ++ encode (content.drop size)) := by
  rw [encode]
  exact if_pos h

/-- Fewer than 128 octets stand behind one octet that counts them. -/
theorem encode_of_short {content : Octets} (h : content.length < 128) :
    encode content = .ofNat content.length :: content := by
  have hunit : ¬ fragmentUnit ≤ content.length := by
    simp only [fragmentUnit]
    omega
  rw [encode]
  simp only [if_neg hunit, if_pos h]

/-- Fewer octets than a unit, but not fewer than 128, stand behind two octets that count them. -/
theorem encode_of_long {content : Octets} (h : 128 ≤ content.length)
    (hunit : content.length < fragmentUnit) :
    encode content =
      .ofNat (0x80 + content.length / 256) :: .ofNat (content.length % 256) :: content := by
  rw [encode]
  simp only [if_neg (Nat.not_le.2 hunit), if_neg (Nat.not_lt.2 h)]

/-- **The canonical encoding is an encoding** of its content. -/
theorem encodes_encode (content : Octets) : Encodes (encode content) content := by
  -- One rule of the grammar for each way in which the encoder goes on.
  induction content using encode.induct with
  | case1 content count hunit units ih =>
    obtain ⟨hunits, hsize⟩ := units_bounds hunit
    have hlength : (content.take (units * fragmentUnit)).length = units * 16384 :=
      List.length_take_of_le hsize
    have hfragment := Encodes.fragment hunits hlength ih
    rw [List.take_append_drop] at hfragment
    rw [encode_of_unit_le hunit]
    exact hfragment
  | case2 content count hunit hshort =>
    have hcount : (UInt8.ofNat content.length).toNat = content.length :=
      UInt8.toNat_ofNat_of_lt' (Nat.lt_trans hshort (by decide))
    have hn : UInt8.ofNat content.length < 128 := by
      rw [UInt8.lt_iff_toNat_lt, hcount]
      exact hshort
    rw [encode_of_short hshort]
    exact .short hn hcount.symm
  | case3 content count hunit hshort =>
    have hlow : (UInt8.ofNat (content.length % 256)).toNat = content.length % 256 :=
      UInt8.toNat_ofNat_of_lt' (Nat.mod_lt _ (by decide))
    have hhigh : content.length / 256 < 64 := by
      simp only [fragmentUnit] at hunit
      omega
    rw [encode_of_long (Nat.not_lt.1 hshort) (Nat.not_le.1 hunit)]
    refine .long hhigh ?_
    rw [hlow]
    exact (Nat.div_add_mod ..).symm

/-- **The decoder undoes the canonical encoding.** -/
theorem decode_encode (content : Octets) : decode (encode content) = some content :=
  (encodes_encode content).decode

end Uper

/-- The codec decodes a canonical encoding, of the first block of a stream behind the octets that
are to be skipped. -/
theorem Codec.octetString_decode_encode (skipped : UInt64) (content : Octets) :
    (octetString skipped).decode (Uper.encode content) false = some content ∧
      ∀ front : Octets, front.length = skipped.toNat →
        (octetString skipped).decode (front ++ Uper.encode content) true = some content := by
  refine ⟨Uper.decode_encode content, fun front hfront => ?_⟩
  have hskip : skip skipped.toNat (front ++ Uper.encode content) = some (Uper.encode content) := by
    rw [skip, ← hfront, if_pos (by simp), List.drop_left]
  show (skip skipped.toNat (front ++ Uper.encode content)).bind Uper.decode = some content
  rw [hskip]
  exact Uper.decode_encode content

/-- What decodes is transcoded into the element of its content, behind what the buffer held. -/
theorem transcode_octetString {skipped : UInt64} {payload content : Octets} {isFirst : Bool}
    (h : (Codec.octetString skipped).decode payload isFirst = some content) (output : Octets) :
    transcode (.octetString skipped) payload isFirst output =
      { result := .ok (29 + 2 * content.length)
        isFirst := false
        buffer := output ++ Xer.element content } := by
  have hlength : (output ++ Xer.element content).length =
      output.length + (29 + 2 * content.length) := by
    rw [List.length_append, Xer.length_element]
  simp only [transcode, h]
  simp only [Codec.octetString, hlength]
  rw [if_pos (by omega), Nat.add_sub_cancel_left]

/-- **Every octet string makes the round trip.**  Its canonical encoding is transcoded into its
element: the two tags, and between them its octets in upper-case hexadecimal, appended to whatever
the buffer held.  The number of octets appended is 29 for the tags and two for each octet.  In the
first block of a stream the same holds behind any octets that are to be skipped. -/
theorem transcode_encode (skipped : UInt64) (content output : Octets) :
    ∃ digits : Octets, Octets.IsUpperHex content digits ∧
      let transcoded : Transcoded :=
        { result := .ok (29 + 2 * content.length)
          isFirst := false
          buffer := output ++ (Octets.ofAscii "<OCTET_STRING>" ++ digits ++
            Octets.ofAscii "</OCTET_STRING>") }
      transcode (.octetString skipped) (Uper.encode content) false output = transcoded ∧
        ∀ front : Octets, front.length = skipped.toNat →
          transcode (.octetString skipped) (front ++ Uper.encode content) true output =
            transcoded := by
  refine ⟨Octets.upperHex content, Octets.isUpperHex_upperHex content, ?_⟩
  intro transcoded
  obtain ⟨hlater, hfirst⟩ := Codec.octetString_decode_encode skipped content
  exact ⟨transcode_octetString hlater output,
    fun front hfront => transcode_octetString (hfirst front hfront) output⟩

/-- A content of just one unit is a fragment before an empty rest, here behind two octets that are
skipped.  Each `5A` is spelled with the digits `5` and `A`. -/
theorem transcode_encode_one_unit :
    let content : Octets := List.replicate 16384 0x5A
    let openTag : Octets :=
      [0x3C, 0x4F, 0x43, 0x54, 0x45, 0x54, 0x5F, 0x53, 0x54, 0x52, 0x49, 0x4E, 0x47, 0x3E]
    let closeTag : Octets :=
      [0x3C, 0x2F, 0x4F, 0x43, 0x54, 0x45, 0x54, 0x5F, 0x53, 0x54, 0x52, 0x49, 0x4E, 0x47, 0x3E]
    Uper.encode content = 0xC1 :: (content ++ [0]) ∧
      ∃ digits : Octets,
        transcode (.octetString 2) ([0xFF, 0xFE] ++ (0xC1 :: (content ++ [0]))) true [0x20] =
          { result := .ok 32797
            isFirst := false
            buffer := [0x20] ++ (openTag ++ digits ++ closeTag) } ∧
        digits.length = 32768 ∧
        ∀ index < 16384, digits[2 * index]? = some 0x35 ∧ digits[2 * index + 1]? = some 0x41 := by
  intro content openTag closeTag
  have hlength : content.length = 16384 := List.length_replicate
  have hle : content.length ≤ Uper.fragmentUnit := Nat.le_of_eq hlength
  have hencode : Uper.encode content = 0xC1 :: (content ++ [0]) := by
    have hunits : min 4 (content.length / Uper.fragmentUnit) = 1 := by rw [hlength]; rfl
    have hempty : Uper.encode [] = [0] := Uper.encode_of_short (by decide)
    rw [Uper.encode_of_unit_le (Nat.le_of_eq hlength.symm), hunits, Nat.one_mul,
      List.take_of_length_le hle, List.drop_of_length_le hle, hempty]
    rfl
  obtain ⟨digits, hdigits, -, hround⟩ := transcode_encode 2 content [0x20]
  have hfirst := hround [0xFF, 0xFE] rfl
  rw [hencode, hlength] at hfirst
  have hspelled : digits.length = 32768 := by rw [hdigits.length, hlength]
  refine ⟨hencode, digits, hfirst, hspelled, fun index hindex => ?_⟩
  have hoctet : content[index]? = some 0x5A := by
    rw [List.getElem?_replicate, if_pos hindex]
  exact ⟨hdigits.high index _ hoctet, hdigits.low index _ hoctet⟩

end OctetRelay
