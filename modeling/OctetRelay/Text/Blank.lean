/-
# Blank characters and trimming

Blank characters are those with the Unicode property `White_Space`.  A text is
trimmed by dropping the blank characters at its two ends.

Source: `parse` of properties and `from_str` of `StartOffset`; `SPEC_FULL.md`
11, blanks around key and value.
-/

namespace OctetRelay
namespace Text

/-- Whether a character is white space in the sense of Unicode. -/
def isBlank (c : Char) : Bool :=
  let n := c.toNat
  (9 ≤ n && n ≤ 13) || n == 0x20 || n == 0x85 || n == 0xA0 || n == 0x1680
    || (0x2000 ≤ n && n ≤ 0x200A) || n == 0x2028 || n == 0x2029 || n == 0x202F
    || n == 0x205F || n == 0x3000

/-- Every character that core counts as white space is blank. -/
theorem isBlank_of_isWhitespace {c : Char} (h : c.isWhitespace = true) : isBlank c = true := by
  simp only [Char.isWhitespace, Bool.or_eq_true, decide_eq_true_eq] at h
  rcases h with ((rfl | rfl) | rfl) | rfl <;> decide

/-- A text without the blank characters at its start. -/
def trimStart (text : List Char) : List Char := text.dropWhile isBlank

/-- A text without the blank characters at its end. -/
def trimEnd (text : List Char) : List Char := (trimStart text.reverse).reverse

/-- A text without the blank characters at its ends. -/
def trimChars (text : List Char) : List Char := trimEnd (trimStart text)

/-- A text without the blank characters at its ends. -/
def trim (text : String) : String := String.ofList (trimChars text.toList)

/-- Whether a text holds nothing but blank characters. -/
def isBlankText (text : String) : Bool := text.toList.all isBlank

end Text
end OctetRelay
