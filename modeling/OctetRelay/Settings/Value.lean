/-
# Setting values

Settings reach the program as values of a few kinds, each marked with the layer
it came from.  Of two values for one setting the later one counts, except that
two dictionaries are merged key by key.

A value that does not fit its setting is a misfit: the fault, the path to the
value and its layer.

Source: the values that `from_layers` merges, and their misfits; `SPEC_FULL.md`
11, the merged sources.
-/

import OctetRelay.Dictionary
import OctetRelay.Number.Shortest
import OctetRelay.StartOffset

namespace OctetRelay

/-- Where a setting came from. -/
inductive Origin where
  | defaults
  | file
  | environment
  | commandLine
  /-- A settings document, read on its own. -/
  | document
  deriving DecidableEq, Repr

/-- A value without parts. -/
inductive Scalar where
  /-- No value at all. -/
  | absent
  | text (text : String)
  | flag (flag : Bool)
  | unsigned (number : UInt64)
  | signed (number : Int64)
  | binary (number : Binary64)
  deriving DecidableEq, Repr

/-- A setting's value and the layer it came from. -/
inductive Value where
  | scalar (origin : Origin) (scalar : Scalar)
  | list (origin : Origin) (items : List Value)
  | dict (origin : Origin) (entries : List (String × Value))

namespace Value

instance : Inhabited Value := ⟨.scalar .defaults .absent⟩

/-- The layer of a value. -/
def origin : Value → Origin
  | .scalar origin _ => origin
  | .list origin _ => origin
  | .dict origin _ => origin

mutual

/-- A value set over another one. -/
def merge : Value → Value → Value
  | .dict origin below, .dict _ above => .dict origin (mergeEntries below above)
  | _, above => above

/-- The entries of one dictionary set over those of another. -/
def mergeEntries (below : List (String × Value)) :
    List (String × Value) → List (String × Value)
  | [] => below
  | (key, value) :: above =>
    let merged := match Dictionary.get? key below with
      | some old => merge old value
      | none => value
    mergeEntries (Dictionary.insert key merged below) above

end

end Value

/-- What a setting needs. -/
inductive Expected where
  | text
  | list
  | dict
  | flag
  | signed32
  | unsigned32
  | unsigned64
  /-- A length in memory. -/
  | size
  | startOffset
  /-- The settings as a whole. -/
  | settings
  deriving DecidableEq, Repr

/-- The name of what is needed. -/
def Expected.message : Expected → String
  | .text => "a string"
  | .list => "a sequence"
  | .dict => "a map"
  | .flag => "a boolean"
  | .signed32 => "i32"
  | .unsigned32 => "u32"
  | .unsigned64 => "u64"
  | .size => "usize"
  | .startOffset => "\"beginning\", \"end\", \"stored\" or a non-negative offset"
  | .settings => "struct PipelineConfig"

/-- What was found in a setting's place. -/
inductive Found where
  | scalar (scalar : Scalar)
  | list
  | dict
  deriving DecidableEq, Repr

/-- The kind of a value. -/
def Value.found : Value → Found
  | .scalar _ content => .scalar content
  | .list _ _ => .list
  | .dict _ _ => .dict

namespace Found

/-- The name of what was found, as a settings document calls it. -/
def documentMessage : Found → String
  | .scalar .absent => "null"
  | .scalar (.text text) => "string " ++ Text.quoted text
  | .scalar (.flag flag) => s!"boolean `{flag}`"
  | .scalar (.unsigned number) => s!"integer `{number}`"
  | .scalar (.signed number) => s!"integer `{number}`"
  | .scalar (.binary number) => "floating point `" ++ number.documentText ++ "`"
  | .list => "sequence"
  | .dict => "map"

/-- The name of what was found, as a layer of settings calls it. -/
def layerMessage : Found → String
  | .scalar .absent => "unit"
  | .scalar (.text text) => "string " ++ Text.quoted text
  | .scalar (.flag flag) => s!"bool {flag}"
  | .scalar (.unsigned number) => s!"unsigned int `{number}`"
  | .scalar (.signed number) => s!"signed int `{number}`"
  | .scalar (.binary number) => "float `" ++ number.text ++ "`"
  | .list => "sequence"
  | .dict => "map"

end Found

/-- What is wrong with a value. -/
inductive MisfitFault where
  | wrongKind (found : Found) (expected : Expected)
  | outOfRange (found : Found) (expected : Expected)
  /-- The text of a starting position was refused. -/
  | malformed (setting : MalformedSetting)
  | negativeOffset
  | offsetTooLarge
  /-- A list of settings in order has more items than there are settings. -/
  | tooManyItems (count : Nat)
  deriving DecidableEq, Repr

/-- A value that does not fit its setting. -/
structure Misfit where
  fault : MisfitFault
  origin : Origin
  path : List String := []
  deriving DecidableEq, Repr

namespace Misfit

/-- The misfit seen from a dictionary or list that holds the value. -/
def under (key : String) (misfit : Misfit) : Misfit :=
  { misfit with path := key :: misfit.path }

/-- What is wrong, in the words of a settings document. -/
def documentFault : MisfitFault → String
  | .wrongKind found expected =>
    "invalid type: " ++ found.documentMessage ++ ", expected " ++ expected.message
  | .outOfRange found expected =>
    "invalid value: " ++ found.documentMessage ++ ", expected " ++ expected.message
  | .malformed setting => setting.message
  | .negativeOffset => "explicit offsets must not be negative"
  | .offsetTooLarge => "offset out of range"
  | .tooManyItems count => s!"invalid length {count}, expected fewer elements in array"

/-- What is wrong, in the words of a layer of settings. -/
def layerFault : MisfitFault → String
  | .wrongKind found expected =>
    "invalid type: found " ++ found.layerMessage ++ ", expected " ++ expected.message
  | .outOfRange found expected =>
    "invalid value " ++ found.layerMessage ++ ", expected " ++ expected.message
  | fault => documentFault fault

/-- The text of a misfit.  A layer also says where the value stands; variables of the environment
are called by their upper-case names. -/
def message (misfit : Misfit) : String :=
  match misfit.origin with
  | .document => documentFault misfit.fault
  | .environment =>
    layerFault misfit.fault ++ " for key "
      ++ Text.quoted ((".".intercalate misfit.path).map Char.toUpper)
      ++ " in `ACM_` environment variable(s)"
  | .defaults | .file | .commandLine =>
    layerFault misfit.fault ++ " for key "
      ++ Text.quoted (".".intercalate ("default" :: misfit.path))

end Misfit
end OctetRelay
