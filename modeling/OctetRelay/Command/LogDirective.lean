/-
# Log directives

A directive says from which level on some events are logged.

| directive | events |
| --- | --- |
| `level` | all |
| `target`, `target=`, `target=level` | those whose target starts with a text |
| `[{field}]=level` | those that have a field |
| `target[{field}]=level` | those with both |

Without a level all of them are logged.  A name in front of the braces, or a
value behind the field, is a condition on the surroundings of an event: there
are none here, so that such a directive speaks of no event.

The parts of a directive are found in its text without the blank characters
around it, and are cut out of the text with them: behind a blank at the start
the parts are shifted by its length.

Source: `init`; `SPEC_FULL.md` 10, the information log and its level.
-/

import OctetRelay.Log
import OctetRelay.Text.Alphanumeric
import OctetRelay.Text.Blank
import OctetRelay.Text.Integer
import OctetRelay.Text.Pieces

namespace OctetRelay

/-- The lowest level that is logged; `none` logs nothing. -/
abbrev Threshold := Option Level

namespace Threshold

/-- Whether a level is logged. -/
def admits (threshold : Threshold) (level : Level) : Bool :=
  threshold.any fun lowest => lowest.rank ≤ level.rank

/-- The threshold that a word of the command line stands for; case does not count. -/
def ofWord? (word : String) : Option Threshold :=
  match (Text.trim word).map Char.toLower with
  | "trace" => some (some .trace)
  | "debug" => some (some .debug)
  | "info" => some (some .info)
  | "warning" | "warn" => some (some .warn)
  | "error" | "critical" => some (some .error)
  | "off" => some none
  | _ => none

/-- The threshold that a number stands for: the greater, the more is logged. -/
def ofNumber? : Int → Option Threshold
  | 0 => some none
  | 1 => some (some .error)
  | 2 => some (some .warn)
  | 3 => some (some .info)
  | 4 => some (some .debug)
  | 5 => some (some .trace)
  | _ => none

/-- The threshold that a directive's level stands for. -/
def ofLevel? (level : String) : Option Threshold :=
  match Text.readInteger .unsigned64 level.toList with
  | .ok number => ofNumber? number
  | .error _ =>
    match level.map Char.toLower with
    | "off" => some none
    | "error" => some (some .error)
    | "warn" => some (some .warn)
    | "info" => some (some .info)
    | "debug" => some (some .debug)
    | "trace" => some (some .trace)
    | _ => none

end Threshold

/-- A field that an event must have, perhaps with a value. -/
structure FieldCondition where
  name : String
  value : Option String := none
  deriving DecidableEq, Repr

/-- A threshold, and the conditions on the events that it is for. -/
structure LogDirective where
  target : Option String := none
  surrounding : Option String := none
  field : Option FieldCondition := none
  threshold : Threshold := some .trace
  deriving DecidableEq, Repr

/-- Why a text is no directive. -/
inductive DirectiveFault where
  | malformed
  | unknownLevel
  deriving DecidableEq, Repr

/-- The text of a fault. -/
def DirectiveFault.message : DirectiveFault → String
  | .malformed => "invalid filter directive"
  | .unknownLevel =>
    "error parsing level filter: expected one of \"off\", \"error\", \"warn\", \"info\", "
      ++ "\"debug\", \"trace\", or a number 0-5"

namespace LogDirective

/-- The number of octets of some characters. -/
def octets (text : List Char) : Nat := (String.ofList text).utf8ByteSize

/-- The part of a text from one octet up to another one. -/
def part (text : String) (start stop : Nat) : String :=
  Text.decodeLenient ((text.toUTF8.toList.take stop).drop start)

/-- The part of a text from an octet on. -/
def partFrom (text : String) (start : Nat) : String := part text start text.utf8ByteSize

/-- Whether a directive may start with a character, apart from a bracket. -/
def isWordStart (c : Char) : Bool :=
  c = '-' || c = ':' || c = '_' || Text.isAlphanumeric c

/-- Reads the level from an octet on, if there is one. -/
def readLevel (text : String) (start : Nat) (directive : LogDirective) :
    Except DirectiveFault LogDirective :=
  let level := partFrom text start
  if level = "" then .ok { directive with threshold := some .trace }
  else
    match Threshold.ofLevel? level with
    | some threshold => .ok { directive with threshold }
    | none => .error .unknownLevel

/-- Reads what follows the closing bracket. -/
def readEnd (text : String) (start : Nat) (directive : LogDirective) :
    List Char → Except DirectiveFault LogDirective
  | [] => .ok directive
  | '=' :: _ => readLevel text (start + 1) directive
  | _ => .error .malformed

/-- The field condition that a text spells. -/
def fieldCondition (text : String) : FieldCondition :=
  match Text.pieces '=' text.toList with
  | name :: value :: _ => { name := String.ofList name, value := some (String.ofList value) }
  | _ => { name := text }

/-- Reads a field condition and what follows it. -/
def readField (text : String) (start : Nat) (directive : LogDirective) (rest : List Char) :
    Except DirectiveFault LogDirective :=
  let inner := rest.takeWhile (· ≠ '\x7d')
  let stop := start + octets inner
  match rest.drop inner.length with
  | '\x7d' :: ']' :: rest =>
    if inner.isEmpty then .error .malformed
    else
      let field := fieldCondition (part text start stop)
      readEnd text (stop + 2) { directive with field := some field } rest
  | _ => .error .malformed

/-- Reads what follows the opening bracket. -/
def readBracket (text : String) (start : Nat) (target : Option String) (rest : List Char) :
    Except DirectiveFault LogDirective :=
  let inner := rest.takeWhile fun c => c ≠ ']' && c ≠ '\x7b'
  let stop := start + octets inner
  let name := part text start stop
  match rest.drop inner.length with
  | ']' :: rest => readEnd text (stop + 1) { target, surrounding := some name } rest
  | '\x7b' :: rest =>
    readField text (stop + 1)
      { target, surrounding := if inner.isEmpty then none else some name } rest
  | _ => .error .malformed

/-- A level alone, or else a target alone. -/
def ofWord (word : String) : LogDirective :=
  match Threshold.ofLevel? word with
  | some threshold => { threshold }
  | none => { target := some word }

/-- Reads a directive. -/
def read (text : String) : Except DirectiveFault LogDirective :=
  match (Text.trim text).toList with
  | [] => .error .malformed
  | '[' :: rest => readBracket text 1 none rest
  | c :: rest =>
    if !isWordStart c then .error .malformed
    else
      let word := (c :: rest).takeWhile fun c => c ≠ '=' && c ≠ '['
      let stop := octets word
      match (c :: rest).drop word.length with
      | '=' :: _ => readLevel text (stop + 1) { target := some (part text 0 stop) }
      | '[' :: rest => readBracket text (stop + 1) (some (part text 0 stop)) rest
      | _ => .ok (ofWord text)

/-- Whether a directive depends on nothing but the event itself. -/
def isPlain (directive : LogDirective) : Bool :=
  directive.surrounding.isNone && directive.field.all fun field => field.value.isNone

/-- Whether an event has a field; all events have a message. -/
def hasField (event : Event) (name : String) : Bool :=
  name = "message" || event.fields.any fun field => field.1 = name

/-- Whether a directive is about an event. -/
def covers (directive : LogDirective) (event : Event) : Bool :=
  (directive.isPlain
    && directive.target.all fun target => target.toList.isPrefixOf event.target.toList)
    && directive.field.all fun field => hasField event field.name

/-- How much a directive demands of a target. -/
def targetWeight (directive : LogDirective) : Nat :=
  directive.target.elim 0 fun target => target.utf8ByteSize + 1

/-- Whether a directive goes before another one about the same event: for its longer target, for its
field, or for the name of its field; of two alike the later one counts. -/
def overrides (later earlier : LogDirective) : Bool :=
  if later.targetWeight ≠ earlier.targetWeight then earlier.targetWeight < later.targetWeight
  else
    match earlier.field, later.field with
    | none, _ => true
    | some _, none => false
    | some one, some other => one.name ≤ other.name

end LogDirective
end OctetRelay
