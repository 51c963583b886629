/-
# Settings from the environment

Variables whose names start with `ACM_`, in either case, are a layer of
settings.  The rest of the name is the name of the setting in upper case; a
double underscore or a point leads into a dictionary.  A name with an empty
part is none.

Source: `ENV_PREFIX` in `from_layers`; `SPEC_FULL.md` 11, nested variables.
-/

import OctetRelay.Settings.Literal
import OctetRelay.Text.Pieces

namespace OctetRelay
namespace Environment

/-- The lower-case form of an ASCII letter. -/
def lower (c : Char) : Char := c.toLower

/-- Replaces each double underscore by a point. -/
def splitMarks : List Char → List Char
  | '_' :: '_' :: rest => '.' :: splitMarks rest
  | c :: rest => c :: splitMarks rest
  | [] => []

/-- The path to the setting that a variable names. -/
def path? (name : String) : Option (List String) :=
  match Text.trimChars name.toList with
  | a :: c :: m :: '_' :: rest =>
    if [a, c, m].map lower = ['a', 'c', 'm'] then
      let key := Text.trimChars (splitMarks rest)
      let parts := Text.pieces '.' (key.map lower)
      if parts.any List.isEmpty then none else some (parts.map String.ofList)
    else none
  | _ => none

/-- A value at the end of a path, as entries of a dictionary. -/
def nest : List String → Value → List (String × Value)
  | [], _ => []
  | [key], value => [(key, value)]
  | key :: path, value => [(key, .dict .environment (nest path value))]

/-- The layer of an environment, a later variable over an earlier one. -/
def layer (assignments : List (String × String)) : List (String × Value) :=
  assignments.foldl (fun entries entry =>
    match path? entry.1 with
    | none => entries
    | some path => Value.mergeEntries entries (nest path (Literal.parse entry.2))) []

end Environment
end OctetRelay
