/-
# Quoted texts

A quoted text stands between double quotes.  Inside, a quote and a backslash
follow a backslash, the line and tab characters and NUL have short names, and a
character that does not print is written by its code point in hexadecimal.

Source: the reasons of settings that do not load; `SPEC_FULL.md` 12.
-/

import OctetRelay.Text.Escaped

namespace OctetRelay
namespace Text

/-- The lower-case hexadecimal spelling of a number, without leading zeros. -/
def hexNumeral (n : Nat) : String := String.ofList (Nat.toDigits 16 n)

/-- One character inside the quotes. -/
def quotedChar (c : Char) : String :=
  if c = '"' then "\\\""
  else if c = '\\' then "\\\\"
  else if c = '\n' then "\\n"
  else if c = '\r' then "\\r"
  else if c = '\t' then "\\t"
  else if c = '\x00' then "\\0"
  else if isEscaped c then "\\u\x7b" ++ hexNumeral c.toNat ++ "\x7d"
  else String.singleton c

/-- A text between quotes. -/
def quoted (text : String) : String :=
  "\"" ++ String.join (text.toList.map quotedChar) ++ "\""

/-- A list of texts, each between quotes. -/
def quotedList (texts : List String) : String :=
  "[" ++ ", ".intercalate (texts.map quoted) ++ "]"

/-- A text that may be missing. -/
def quotedOption : Option String → String
  | none => "None"
  | some text => "Some(" ++ quoted text ++ ")"

end Text
end OctetRelay
