/-
# The XML form of an `OCTET STRING`

The content stands in upper-case hexadecimal between two tags.

Source: `encode` of `OctetStringCodec`; `SPEC_FULL.md` 14, the default codec: X.693
with hexadecimal content.
-/

import OctetRelay.Octets

namespace OctetRelay
namespace Xer

/-- The start tag, as octets. -/
def openTag : Octets := Octets.ofAscii "<OCTET_STRING>"

/-- The end tag, as octets. -/
def closeTag : Octets := Octets.ofAscii "</OCTET_STRING>"

/-- The element that holds a content. -/
def element (content : Octets) : Octets :=
  openTag ++ Octets.upperHex content ++ closeTag

/-- Fourteen characters. -/
@[simp] theorem length_openTag : openTag.length = 14 := by decide

/-- One more, for the stroke. -/
@[simp] theorem length_closeTag : closeTag.length = 15 := by decide

/-- Two octets for each one of content, and 29 for the tags. -/
theorem length_element (content : Octets) :
    (element content).length = 29 + 2 * content.length := by
  simp [element, Octets.length_upperHex]; omega

end Xer
end OctetRelay
