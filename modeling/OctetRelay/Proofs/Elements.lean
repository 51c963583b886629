/-
# Reading elements back

An element can be told from whatever follows it: its digits run up to the first
octet that starts a tag, which no digit is, and the end tag that must stand
there has a length of its own.

| part | what it reaches up to |
| --- | --- |
| start tag | its own length |
| digits | the next `<` |
| end tag | its own length |

So `readElement?` reads an element off the front of any text
(`readElement?_append`), and everything else is read off that: elements of two
contents differ, none is the beginning of another, and a text made of elements
falls apart into them in one way only (`contents?_flatMap_element`).

`transcode_faithful` says what this means for the output of a transcoder.

Source: `encode` of `OctetStringCodec`; `SPEC_FULL.md` 14, the default codec.
-/

import OctetRelay.Proofs.FirstBlock

namespace OctetRelay

namespace Xer

/-- The octet that starts a tag. -/
def tagMark : UInt8 := 0x3C

/-- Reads an element off the front of a text: its content, and what follows the element. -/
def readElement? (text : Octets) : Option (Octets × Octets) :=
  let inner := text.drop openTag.length
  let digits := inner.takeWhile (· != tagMark)
  let behind := inner.dropWhile (· != tagMark)
  if text.take openTag.length = openTag ∧ behind.take closeTag.length = closeTag then
    (Octets.ofHex? digits).map fun content => (content, behind.drop closeTag.length)
  else none

/-- An element takes up octets. -/
theorem length_lt_of_readElement? {text content rest : Octets}
    (h : readElement? text = some (content, rest)) : rest.length < text.length := by
  simp only [readElement?] at h
  split at h
  · rename_i htags
    obtain ⟨other, -, hother⟩ := Option.map_eq_some_iff.1 h
    obtain ⟨-, rfl⟩ := Prod.mk.inj hother
    have hopen := congrArg List.length htags.1
    have hle := (List.dropWhile_suffix (l := text.drop openTag.length) (· != tagMark)).length_le
    simp only [List.length_take, List.length_drop, length_openTag, length_closeTag] at hopen hle ⊢
    omega
  · cases h

/-- The contents of a text that is made of elements. -/
def contents? (text : Octets) : Option (List Octets) :=
  if text = [] then some []
  else
    match h : readElement? text with
    | none => none
    | some (content, rest) =>
      have := length_lt_of_readElement? h
      (contents? rest).map (content :: ·)
termination_by text.length

/-- No hexadecimal digit starts a tag. -/
theorem upperDigit_ne_tagMark {value : Nat} (h : value < 16) :
    Octets.upperDigit value ≠ tagMark := by
  have cases : ∀ v : Fin 16, Octets.upperDigit v.val ≠ tagMark := by decide
  exact cases ⟨value, h⟩

/-- No digit starts a tag. -/
theorem ne_tagMark_of_mem_upperHex {content : Octets} {digit : UInt8}
    (h : digit ∈ Octets.upperHex content) : digit ≠ tagMark := by
  obtain ⟨octet, -, hdigit⟩ := List.mem_flatMap.1 h
  have hoctet := octet.toNat_lt
  simp only [Octets.digitPair, List.mem_cons, List.not_mem_nil, or_false] at hdigit
  rcases hdigit with rfl | rfl
  · exact upperDigit_ne_tagMark (by omega)
  · exact upperDigit_ne_tagMark (by omega)

/-- **An element is read off the front of a text**, whatever follows it. -/
theorem readElement?_append (content rest : Octets) :
    readElement? (element content ++ rest) = some (content, rest) := by
  have hdigits : ∀ digit ∈ Octets.upperHex content, (digit != tagMark) = true := by
    intro digit hdigit
    exact bne_iff_ne.2 (ne_tagMark_of_mem_upperHex hdigit)
  have hmark : closeTag = tagMark :: closeTag.tail := by decide
  have htext : element content ++ rest =
      openTag ++ (Octets.upperHex content ++ (closeTag ++ rest)) := by
    rw [element, List.append_assoc, List.append_assoc]
  have hstop : ¬ (tagMark != tagMark) = true := by decide
  have htake : (closeTag ++ rest).takeWhile (· != tagMark) = [] := by
    rw [hmark, List.cons_append]
    exact List.takeWhile_cons_of_neg hstop
  have hdrop : (closeTag ++ rest).dropWhile (· != tagMark) = closeTag ++ rest := by
    rw [hmark, List.cons_append]
    exact List.dropWhile_cons_of_neg hstop
  simp only [readElement?, htext, List.take_left, List.drop_left,
    List.takeWhile_append_of_pos hdigits, List.dropWhile_append_of_pos hdigits, htake, hdrop,
    List.append_nil, Octets.ofHex?_upperHex, Option.map_some, and_self, if_true]

/-- **Elements of two contents differ**, and so do texts that start with them. -/
theorem element_append_inj {content content' rest rest' : Octets}
    (h : element content ++ rest = element content' ++ rest') :
    content = content' ∧ rest = rest' := by
  have hread := readElement?_append content rest
  rw [h, readElement?_append] at hread
  obtain ⟨hcontent, hrest⟩ := Prod.mk.inj (Option.some.inj hread)
  exact ⟨hcontent.symm, hrest.symm⟩

/-- Elements are equal just if their contents are. -/
theorem element_inj {content content' : Octets} :
    element content = element content' ↔ content = content' := by
  constructor
  · intro h
    have happend : element content ++ [] = element content' ++ [] := by rw [h]
    exact (element_append_inj happend).1
  · rintro rfl
    rfl

/-- No element is the beginning of another. -/
theorem eq_of_element_front {content content' : Octets}
    (h : element content <+: element content') : content = content' := by
  obtain ⟨rest, hrest⟩ := h
  have happend : element content ++ rest = element content' ++ [] := by rw [hrest, List.append_nil]
  exact (element_append_inj happend).1

/-- The contents of a sequence start with that of its first element. -/
theorem contents?_element_append (content rest : Octets) :
    contents? (element content ++ rest) = (contents? rest).map (content :: ·) := by
  have hne : element content ++ rest ≠ [] := by
    intro hnil
    have hlength := congrArg List.length hnil
    simp only [List.length_append, length_element, List.length_nil] at hlength
    omega
  have hread := readElement?_append content rest
  rw [contents?, if_neg hne]
  split
  · rename_i hnone
    rw [hread] at hnone
    cases hnone
  · rename_i content' rest' hsome
    rw [hread] at hsome
    obtain ⟨rfl, rfl⟩ := Prod.mk.inj (Option.some.inj hsome)
    rfl

/-- **Elements in a row are read back one by one.** -/
theorem contents?_flatMap_element (contents : List Octets) :
    contents? (contents.flatMap element) = some contents := by
  induction contents with
  | nil =>
    rw [List.flatMap_nil, contents?]
    rfl
  | cons content contents ih =>
    rw [List.flatMap_cons, contents?_element_append, ih]
    rfl

end Xer

/-- What a call adds to the buffer. -/
def Call.output (codec : Codec) (call : Call) : Octets :=
  (call.done codec).buffer.drop call.buffer.length

/-- What a buffer holds when blocks have been transcoded into it, one after the other. -/
def transcodeAll (codec : Codec) (buffer : Octets) : List Block → Octets
  | [] => buffer
  | block :: rest => transcodeAll codec (Call.done codec { block with buffer }).buffer rest

/-- What is added to the buffer for a block is the element of its content, if it has one. -/
theorem Call.buffer_done_octetString (skipped : UInt64) (call : Call) :
    (call.done (.octetString skipped)).buffer =
      call.buffer ++ (call.content? skipped).toList.flatMap Xer.element := by
  rw [done_octetString]
  cases call.content? skipped with
  | none => exact (List.append_nil call.buffer).symm
  | some content => rw [Option.toList_some, List.flatMap_singleton]; rfl

/-- The output of a block with a content is the element of that content. -/
theorem Call.output_of_content? {skipped : UInt64} {call : Call} {content : Octets}
    (h : call.content? skipped = some content) :
    call.output (.octetString skipped) = Xer.element content := by
  rw [output, buffer_done_octetString, List.drop_left, h, Option.toList_some,
    List.flatMap_singleton]

/-- **A growing buffer holds the elements of what was decoded**, in order. -/
theorem transcodeAll_octetString (skipped : UInt64) (buffer : Octets) (blocks : List Block) :
    transcodeAll (.octetString skipped) buffer blocks =
      buffer ++ (blocks.filterMap (Block.content? skipped)).flatMap Xer.element := by
  induction blocks generalizing buffer with
  | nil => exact (List.append_nil buffer).symm
  | cons block rest ih =>
    rw [transcodeAll, ih, Call.buffer_done_octetString, List.append_assoc, ← List.flatMap_append]
    congr 2
    cases hcontent : block.content? skipped with
    | none => rw [List.filterMap_cons_none hcontent]; rfl
    | some content => rw [List.filterMap_cons_some hcontent]; rfl

/-- **The output of a transcoder is faithful and canonical.**  The outputs of two blocks that decode
are equal just when their contents are, whichever encodings the blocks hold.  The content is found
again between the tags of an output, as what its hexadecimal digits spell.  No output is a proper
beginning of another, and so the outputs of any number of blocks, one after the other in a growing
buffer, can be told apart again, in one way only: into the contents of the blocks that decode, in
order. -/
theorem transcode_faithful (skipped : UInt64) :
    (∀ (call call' : Call) (content content' : Octets),
      call.content? skipped = some content → call'.content? skipped = some content' →
        let codec := Codec.octetString skipped
        (call.done codec).buffer = call.buffer ++ call.output codec ∧
          (call.output codec = call'.output codec ↔ content = content') ∧
          (∃ digits, Octets.ofHex? digits = some content ∧ call.output codec =
            Octets.ofAscii "<OCTET_STRING>" ++ digits ++ Octets.ofAscii "</OCTET_STRING>") ∧
          (call.output codec <+: call'.output codec → call.output codec = call'.output codec)) ∧
      ∀ (buffer : Octets) (blocks : List Block),
        let filled := transcodeAll (.octetString skipped) buffer blocks
        let contents := blocks.filterMap (Block.content? skipped)
        buffer <+: filled ∧ Xer.contents? (filled.drop buffer.length) = some contents ∧
          ∀ others : List Octets, filled = buffer ++ others.flatMap Xer.element ↔
            others = contents := by
  constructor
  · intro call call' content content' hcontent hcontent' codec
    have houtput : call.output codec = Xer.element content := Call.output_of_content? hcontent
    have houtput' : call'.output codec = Xer.element content' := Call.output_of_content? hcontent'
    refine ⟨?_, ?_, ⟨Octets.upperHex content, Octets.ofHex?_upperHex content, houtput⟩, ?_⟩
    · rw [houtput, Call.buffer_done_octetString, hcontent, Option.toList_some,
        List.flatMap_singleton]
    · rw [houtput, houtput']
      exact Xer.element_inj
    · rw [houtput, houtput', Xer.element_inj]
      exact Xer.eq_of_element_front
  · intro buffer blocks filled contents
    have hfilled : filled = buffer ++ contents.flatMap Xer.element :=
      transcodeAll_octetString skipped buffer blocks
    refine ⟨?_, ?_, ?_⟩
    · rw [hfilled]
      exact List.prefix_append buffer _
    · rw [hfilled, List.drop_left]
      exact Xer.contents?_flatMap_element contents
    · intro others
      constructor
      · intro hothers
        rw [hfilled] at hothers
        have hsame := List.append_cancel_left hothers
        have hread := Xer.contents?_flatMap_element others
        rw [← hsame, Xer.contents?_flatMap_element] at hread
        exact (Option.some.inj hread).symm
      · rintro rfl
        exact hfilled

/-- A content in the short form, and the same content in the long form behind an octet that is
skipped. -/
theorem transcode_faithful_two_forms :
    let codec := Codec.octetString 1
    let short : Call := { payload := [0x02, 0xAB, 0xCD], isFirst := false, buffer := [] }
    let long : Call :=
      { payload := [0xFF, 0x80, 0x02, 0xAB, 0xCD], isFirst := true, buffer := [0x20] }
    short.content? 1 = some [0xAB, 0xCD] ∧ long.content? 1 = some [0xAB, 0xCD] ∧
      short.output codec = long.output codec ∧
      (long.done codec).buffer = [0x20] ++ long.output codec := by
  intro codec short long
  have hshort : short.content? 1 = some [0xAB, 0xCD] := by
    rw [Block.content?_of_not_isFirst rfl]
    exact (Uper.Encodes.short (by decide) rfl).decode
  have hlong : long.content? 1 = some [0xAB, 0xCD] := by
    rw [Block.content?_of_isFirst rfl]
    exact (@Uper.Encodes.long 0 2 [0xAB, 0xCD] (by decide) rfl).decode
  obtain ⟨-, hsame, -, -⟩ := (transcode_faithful 1).1 short long _ _ hshort hlong
  obtain ⟨hbuffer, -, -, -⟩ := (transcode_faithful 1).1 long short _ _ hlong hshort
  exact ⟨hshort, hlong, hsame.2 rfl, hbuffer⟩

end OctetRelay
