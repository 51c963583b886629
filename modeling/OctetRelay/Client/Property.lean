/-
# Client properties

The message client is set up by named properties with texts as their values.  A
property has a kind, which says what texts it takes and how its value is shown
afterwards.

| kind | takes | is shown as |
| --- | --- | --- |
| text | a text that keeps its rule, less the blank characters at its start | itself |
| verbatim | any text | itself |
| patterns | a list of patterns | itself |
| libraries | no text, since no library is there | |
| flag | `true`, `t`, `1`, `false`, `f` or `0` | `true` or `false` |
| integer | a text that starts with a number in its range, or one of its words | the number |
| decimal | a text that starts with a number in its range | the number in six digits |
| choice | one of its words, or blank characters for no change | the first word for it |
| flags | its words with commas between them, each with a sign or without | the words in force |
| dedicated, internal, refused | nothing | |

An empty text resets the kinds of the first four rows and is refused by the
others.  Words are the same in upper and lower case; blank characters may stand
before them but not behind.  Behind a minus a word of a list is switched off.

Source: `SPEC_FULL.md` 11, the properties passed on verbatim; how a client reads
the value of one.
-/

import OctetRelay.Client.Ability
import OctetRelay.Client.Pattern
import OctetRelay.Number.Leading
import OctetRelay.Text.Pieces

namespace OctetRelay
namespace Client

/-- What a text has to keep to. -/
inductive TextRule where
  | any
  /-- A version of the brokers that has not been given up. -/
  | brokerVersion
  /-- A single name. -/
  | single
  /-- A name of a way to spread messages over partitions. -/
  | partitioner
  deriving DecidableEq, Repr

namespace TextRule

/-- The ways to spread messages over partitions. -/
def partitioners : List String :=
  ["random", "consistent", "consistent_random", "murmur2", "murmur2_random", "fnv1a",
   "fnv1a_random"]

/-- Whether a text keeps to the rule. -/
def admits (rule : TextRule) (text : String) : Bool :=
  match rule with
  | .any => true
  | .brokerVersion => !(text.startsWith "0.7." || text.startsWith "0.6.")
  | .single => !text.toList.any fun c => c = ',' || c = ' '
  | .partitioner => partitioners.contains text

end TextRule

/-- A word for a value, and what it asks for that this client lacks. -/
structure Word where
  text : String
  lacks : Option Ability := none
  deriving DecidableEq, Repr

/-- What a property takes for its value. -/
inductive PropertyKind where
  /-- A text, which an empty one resets to the standard. -/
  | text (standard : Option String) (rule : TextRule)
  | verbatim (standard : String)
  | patterns
  | libraries
  | flag
  | integer (low high : Int) (words : List (String × Int))
  | decimal (low high : Nat)
  /-- Each choice has one or more words. -/
  | choice (choices : List (List Word))
  /-- Words of which any number are in force, at first all or none of them; the last name stands
  for all of them. -/
  | flags (words : List Word) (areOn : Bool) (all : Option String)
  /-- A hook of the client, which no text can set. -/
  | dedicated
  | internal
  | refused (reason : String)
  deriving DecidableEq, Repr

/-- A property of clients. -/
structure Property where
  name : String
  kind : PropertyKind
  /-- What the property asks for that this client lacks. -/
  lacks : Option Ability := none
  deriving DecidableEq, Repr

/-- The value that a property was set to. -/
inductive PropertyValue where
  | text (value : Option String)
  | flag (isOn : Bool)
  | integer (number : Int)
  | decimal (measure : Measure)
  | choice (word : String)
  /-- The words in force, in their own order. -/
  | flags (words : List String)
  deriving DecidableEq, Repr

/-- How a value is shown; a text that was reset to nothing is not. -/
def PropertyValue.shown? : PropertyValue → Option String
  | .text value => value
  | .flag isOn => some (toString isOn)
  | .integer number => some (toString number)
  | .decimal measure => some measure.text
  | .choice word => some word
  | .flags words => some (",".intercalate words)

/-- Why a value was refused. -/
inductive PropertyFault where
  | unknown
  | lacking (ability : Ability)
  | empty (kind : PropertyKind)
  /-- The text breaks the rule of its property. -/
  | notAdmitted (text : Option String)
  | malformedPattern (text : String) (fault : Pattern.Fault)
  | missingLibrary (path : String)
  | notFlag
  | notNumber
  | outOfRange (number low high : Int)
  | outOfDecimalRange (measure : Measure) (low high : Nat)
  | notChoice (word : String)
  | lackingWord (word : String) (ability : Ability)
  | dedicated
  | internal
  | refused (reason : String)
  deriving DecidableEq, Repr

namespace PropertyFault

/-- A name between quotation marks. -/
def quoted (name : String) : String := "\"" ++ name ++ "\""

/-- The text of a number outside its range. -/
def rangeMessage (name number low high : String) : String :=
  "Configuration property " ++ quoted name ++ " value " ++ number
    ++ " is outside allowed range " ++ low ++ ".." ++ high ++ "\n"

/-- The file that is looked for when a library is to be loaded: the end of its name is added
unless it has one of at most two letters. -/
def libraryFile (path : String) : String :=
  let name := (Text.pieces '/' path.toList).getLast?.getD []
  if (name.drop (name.length - 3)).contains '.' then path else path ++ ".so"

/-- The text of a refusal of a value for the property of a name. -/
def message (name : String) : PropertyFault → String
  | .unknown => "No such configuration property: " ++ quoted name
  | .lacking ability =>
    "Configuration property " ++ quoted name ++ " not supported in this build: " ++ ability.lack
  | .empty .flag => "Bool configuration property " ++ quoted name ++ " cannot be set to empty value"
  | .empty (.integer _ _ _) =>
    "Integer configuration property " ++ quoted name ++ " cannot be set to empty value"
  | .empty (.decimal _ _) =>
    "Float configuration property " ++ quoted name ++ " cannot be set to empty value"
  | .empty _ => "Configuration property " ++ quoted name ++ " cannot be set to empty value"
  | .notAdmitted text =>
    "Invalid value for configuration property " ++ quoted name ++ ": " ++ text.getD "(null)"
  | .malformedPattern text fault =>
    "Failed to parse pattern " ++ quoted text ++ ": " ++ fault.message
  | .missingLibrary path =>
    "dlopen() failed: " ++ libraryFile path
      ++ ": cannot open shared object file: No such file or directory (plugin " ++ path ++ ")"
  | .notFlag => "Expected bool value for " ++ quoted name ++ ": true or false"
  | .notNumber => "Invalid value for configuration property " ++ quoted name
  | .outOfRange number low high =>
    rangeMessage name (toString number) (toString low) (toString high)
  | .outOfDecimalRange measure low high =>
    rangeMessage name measure.text (toString low) (toString high)
  | .notChoice word =>
    "Invalid value " ++ quoted word ++ " for configuration property " ++ quoted name
  | .lackingWord word ability =>
    "Unsupported value " ++ quoted word ++ " for configuration property " ++ quoted name ++ ": "
      ++ ability.lack
  | .dedicated =>
    "Property " ++ quoted name ++ " must be set through dedicated .._set_..() function"
  | .internal => "Internal property " ++ quoted name ++ " not settable"
  | .refused reason => reason

end PropertyFault

/-- A word of a list of flags as it is written. -/
structure SignedWord where
  isOff : Bool
  word : String
  deriving DecidableEq, Repr

namespace SignedWord

/-- Reads a word with its sign; blank characters may stand before it. -/
def read (piece : List Char) : SignedWord :=
  let (isOff, word) := Leading.splitSign (piece.dropWhile Leading.isSpace)
  { isOff, word := String.ofList word }

/-- The words of a list of flags, the empty ones left out. -/
def ofList (value : String) : List SignedWord :=
  ((Text.pieces ',' value.toList).map read).filter fun signed => signed.word ≠ ""

end SignedWord

namespace PropertyKind

/-- Whether two words are the same but for upper and lower case. -/
def sameWord (one other : String) : Bool := one.map Char.toLower == other.map Char.toLower

/-- Finds the known word for a text. -/
def findWord (known : List Word) (text : String) : Except PropertyFault Word :=
  match known.find? fun word => sameWord word.text text with
  | none => .error (.notChoice text)
  | some word =>
    match word.lacks with
    | some ability => .error (.lackingWord text ability)
    | none => .ok word

/-- Switches one word of a list, or all of them. -/
def switch (words : List Word) (all : Option String) (on : List String) (signed : SignedWord) :
    Except PropertyFault (List String) := do
  let word ← findWord (words ++ all.toList.map fun name => ⟨name, none⟩) signed.word
  let meant := if all = some word.text then words.map (·.text) else [word.text]
  return if signed.isOff then on.filter fun name => !meant.contains name
    else (words.map (·.text)).filter fun name => on.contains name || meant.contains name

/-- The words that can be in force. -/
def available (words : List Word) : List String :=
  (words.filter fun word => word.lacks.isNone).map (·.text)

/-- Takes a list of words on top of those in force. -/
def takeFlags (words : List Word) (all : Option String) (on : List String)
    (value : String) : Except PropertyFault PropertyValue := do
  let on ← (SignedWord.ofList value).foldlM (switch words all) on
  return .flags (on ++ if on = words.map (·.text) then all.toList else [])

/-- Takes a text that is not empty. -/
def takeText (rule : TextRule) (value : String) : Except PropertyFault PropertyValue :=
  let text := String.ofList (value.toList.dropWhile Leading.isSpace)
  if rule.admits text then .ok (.text (some text)) else .error (.notAdmitted (some text))

/-- Takes the text for a flag. -/
def takeFlag (value : String) : Except PropertyFault PropertyValue :=
  if ["true", "t", "1"].any (sameWord value) then .ok (.flag true)
  else if ["false", "f", "0"].any (sameWord value) then .ok (.flag false)
  else .error .notFlag

/-- Takes the text for an integer. -/
def takeInteger (low high : Int) (words : List (String × Int)) (value : String) :
    Except PropertyFault PropertyValue :=
  let word? := (words.find? fun word => sameWord value word.1).map (·.2)
  match (Leading.integer? value.toList).or word? with
  | none => .error .notNumber
  | some number =>
    if low ≤ number ∧ number ≤ high then .ok (.integer number)
    else .error (.outOfRange number low high)

/-- Takes the text for a decimal. -/
def takeDecimal (low high : Nat) (value : String) : Except PropertyFault PropertyValue :=
  match Leading.measure? value.toList with
  | none => .error .notNumber
  | some measure =>
    if measure.isBelow low || measure.isAbove high then
      .error (.outOfDecimalRange measure low high)
    else .ok (.decimal measure)

/-- Takes the word for a choice; blank characters alone change nothing. -/
def takeChoice (choices : List (List Word)) (value : String) :
    Except PropertyFault (Option PropertyValue) := do
  let text := String.ofList (value.toList.dropWhile Leading.isSpace)
  if text = "" then return none
  let word ← findWord choices.flatten text
  let choice := choices.find? fun words => words.contains word
  return some (.choice ((choice.bind List.head?).getD word).text)

/-- Takes a list of paths of libraries. -/
def takeLibraries (value : String) : Except PropertyFault PropertyValue :=
  let text := value.toList.dropWhile Leading.isSpace
  if text = [] then .ok (.text (some ""))
  else .error (.missingLibrary (String.ofList ((Text.pieces ';' text).head?.getD [])))

/-- Takes a value in place of the one before it, which counts for flags only.  Without a value
everything stays as it was. -/
def take (kind : PropertyKind) (before : Option PropertyValue) (value : String) :
    Except PropertyFault (Option PropertyValue) :=
  match kind with
  | .dedicated => .error .dedicated
  | .internal => .error .internal
  | .refused reason => .error (.refused reason)
  | .text standard rule =>
    if value = "" then
      if rule = .any then .ok (some (.text standard)) else .error (.notAdmitted none)
    else (takeText rule value).map some
  | .verbatim standard => .ok (some (.text (some (if value = "" then standard else value))))
  | .patterns =>
    if value = "" then .ok (some (.text none))
    else match Pattern.firstFault? value with
      | some (pattern, fault) => .error (.malformedPattern pattern fault)
      | none => .ok (some (.text (some value)))
  | .libraries => if value = "" then .ok (some (.text none)) else (takeLibraries value).map some
  | .flag => if value = "" then .error (.empty kind) else (takeFlag value).map some
  | .integer low high words =>
    if value = "" then .error (.empty kind) else (takeInteger low high words value).map some
  | .decimal low high =>
    if value = "" then .error (.empty kind) else (takeDecimal low high value).map some
  | .choice choices => if value = "" then .error (.empty kind) else takeChoice choices value
  | .flags words areOn all =>
    if value = "" then .error (.empty kind)
    else if SignedWord.ofList value = [] then .ok none
    else
      let on := match before with
        | some (.flags shown) => shown.filter fun name => some name ≠ all
        | _ => if areOn then available words else []
      (takeFlags words all on value).map some

end PropertyKind

/-- Takes a value for a property in place of the one before it. -/
def Property.take (property : Property) (before : Option PropertyValue) (value : String) :
    Except PropertyFault (Option PropertyValue) :=
  match property.lacks with
  | some ability => .error (.lacking ability)
  | none => property.kind.take before value

end Client
end OctetRelay
