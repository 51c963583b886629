/-
# Files of properties

A file holds one setting a line, `key = value`.  Blank lines and lines that
start with `#` do not count; blank characters around a key or a value do not
either.  A line that does not have exactly one `=` is skipped, and remembered.

Source: `PropertiesFile`, `parse` and `get`; `SPEC_FULL.md` 11, the format of
the file.
-/

import OctetRelay.Text.Blank
import OctetRelay.Text.Pieces

namespace OctetRelay

/-- What one line of a file of properties amounts to. -/
inductive PropertyLine where
  | ignored
  | entry (key value : String)
  | skipped (line : String)
  deriving DecidableEq, Repr

namespace PropertyLine

/-- Reads a line. -/
def read (text : List Char) : PropertyLine :=
  let line := Text.trimChars text
  match line with
  | [] => .ignored
  | '#' :: _ => .ignored
  | _ =>
    match Text.pieces '=' line with
    | [key, value] =>
      .entry (String.ofList (Text.trimChars key)) (String.ofList (Text.trimChars value))
    | _ => .skipped (String.ofList line)

/-- The setting of a line. -/
def entry? : PropertyLine → Option (String × String)
  | .entry key value => some (key, value)
  | .ignored | .skipped _ => none

/-- The line, if it was skipped. -/
def skipped? : PropertyLine → Option String
  | .skipped line => some line
  | .ignored | .entry _ _ => none

end PropertyLine

/-- The settings of a file and the lines that hold none, both in the order of the file. -/
structure Properties where
  entries : List (String × String)
  skipped : List String
  deriving DecidableEq, Repr

namespace Properties

/-- The lines of a text. -/
def lines (text : String) : List PropertyLine :=
  (Text.pieces '\n' text.toList).map PropertyLine.read

/-- Reads a file of properties. -/
def parse (text : String) : Properties :=
  { entries := (lines text).filterMap PropertyLine.entry?
    skipped := (lines text).filterMap PropertyLine.skipped? }

/-- The value of a key; of several the last one counts. -/
def get? (properties : Properties) (key : String) : Option String :=
  (properties.entries.reverse.find? (·.1 == key)).map (·.2)

end Properties
end OctetRelay
