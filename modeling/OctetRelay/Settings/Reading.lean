/-
# Reading settings from values

Each setting has a name, a reader that takes a value of the right kind, and its
place among the settings (`Field`).  Settings are read one after the other, from a
dictionary in the order of their names and from a list in the order of their
declaration; the first misfit ends the reading, a name that is not given leaves the
default, and other names do not count.

Source: `PipelineConfig` as it is read, and `deserialize` of `StartOffset`;
`SPEC_FULL.md` 3, Pipeline Configuration, and 11, the merged sources.
-/

import OctetRelay.Settings.Basic
import OctetRelay.Settings.Value

namespace OctetRelay
namespace Settings

/-- A value of the wrong kind. -/
def wrongKind {α : Type} (value : Value) (expected : Expected) : Except Misfit α :=
  .error { fault := .wrongKind value.found expected, origin := value.origin }

/-- A number that the setting has no room for. -/
def outOfRange {α : Type} (value : Value) (expected : Expected) : Except Misfit α :=
  .error { fault := .outOfRange value.found expected, origin := value.origin }

/-- Reads a text. -/
def readText (value : Value) : Except Misfit String :=
  match value with
  | .scalar _ (.text text) => .ok text
  | _ => wrongKind value .text

/-- Reads a flag. -/
def readFlag (value : Value) : Except Misfit Bool :=
  match value with
  | .scalar _ (.flag flag) => .ok flag
  | _ => wrongKind value .flag

/-- Reads an integer of a range. -/
def readNumber (range : Text.IntegerRange) (expected : Expected) (value : Value) :
    Except Misfit Int :=
  let within (number : Int) : Except Misfit Int :=
    if range.contains number then .ok number else outOfRange value expected
  match value with
  | .scalar _ (.unsigned number) => within number.toNat
  | .scalar _ (.signed number) => within number.toInt
  | _ => wrongKind value expected

/-- Reads an integer of a range as a number of a type. -/
def readWord {α : Type} (range : Text.IntegerRange) (expected : Expected) (word : Int → α)
    (value : Value) : Except Misfit α :=
  (readNumber range expected value).map word

/-- Reads each text of a list. -/
def readTexts : Nat → List Value → Except Misfit (List String)
  | _, [] => .ok []
  | index, value :: rest => do
    let text ← (readText value).mapError (·.under (toString index))
    let texts ← readTexts (index + 1) rest
    pure (text :: texts)

/-- Reads a list of texts. -/
def readTopics (value : Value) : Except Misfit (List String) :=
  match value with
  | .list _ items => readTexts 0 items
  | _ => wrongKind value .list

/-- Reads each text of a dictionary into the properties. -/
def readEntries : PropertyMap → List (String × Value) → Except Misfit PropertyMap
  | map, [] => .ok map
  | map, (key, value) :: rest => do
    let text ← (readText value).mapError (·.under key)
    readEntries (map.insert key text) rest

/-- Reads a dictionary of texts. -/
def readProperties (value : Value) : Except Misfit PropertyMap :=
  match value with
  | .dict _ entries => readEntries .empty entries
  | _ => wrongKind value .dict

/-- Reads a starting position from its text or from an offset that is not negative. -/
def readOffset (value : Value) : Except Misfit StartOffset :=
  let refuse (fault : MisfitFault) : Except Misfit StartOffset :=
    .error { fault, origin := value.origin }
  match value with
  | .scalar _ (.text text) => (StartOffset.read text).mapError fun setting =>
      { fault := .malformed setting, origin := value.origin }
  | .scalar _ (.unsigned number) =>
    if number.toNat < Nat.pow 2 63 then .ok (.explicit (.ofInt number.toNat))
    else refuse .offsetTooLarge
  | .scalar _ (.signed number) =>
    if number < 0 then refuse .negativeOffset else .ok (.explicit number)
  | _ => wrongKind value .startOffset

/-- Reads a value that may be absent. -/
def readOptional {α : Type} (read : Value → Except Misfit α) (value : Value) :
    Except Misfit (Option α) :=
  match value with
  | .scalar _ .absent => .ok none
  | _ => (read value).map some

/-- One setting: its name, how a value of it is read, and where it stands among the settings. -/
structure Field where
  /-- What the setting holds. -/
  Content : Type
  name : String
  read : Value → Except Misfit Content
  stored : Settings → Content
  store : Settings → Content → Settings
  stored_store : ∀ settings content, stored (store settings content) = content := by intros; rfl
  store_stored : ∀ settings, store settings (stored settings) = settings := by intros; rfl

namespace Field

/-- Reads a value into the settings. -/
def put (field : Field) (value : Value) (settings : Settings) : Except Misfit Settings :=
  (field.read value).map (field.store settings)

/-- The brokers. -/
def brokers : Field where
  Content := String
  name := "brokers"
  read := readText
  stored := (·.brokers)
  store settings text := { settings with brokers := text }

/-- The group. -/
def groupId : Field where
  Content := String
  name := "group_id"
  read := readText
  stored := (·.groupId)
  store settings text := { settings with groupId := text }

/-- The consumed topics. -/
def consumerTopics : Field where
  Content := List String
  name := "consumer_topics"
  read := readTopics
  stored := (·.consumerTopics)
  store settings topics := { settings with consumerTopics := topics }

/-- The produced topic. -/
def producerTopic : Field where
  Content := String
  name := "producer_topic"
  read := readText
  stored := (·.producerTopic)
  store settings text := { settings with producerTopic := text }

/-- The partition of produced messages. -/
def partition : Field where
  Content := Option Int32
  name := "partition"
  read := readOptional (readWord .signed32 .signed32 .ofInt)
  stored := (·.partition)
  store settings partition := { settings with partition }

/-- The starting position. -/
def offset : Field where
  Content := Option StartOffset
  name := "offset"
  read := readOptional readOffset
  stored := (·.offset)
  store settings offset := { settings with offset }

/-- The consume timeout. -/
def consumerTimeoutMs : Field where
  Content := UInt64
  name := "consumer_timeout_ms"
  read := readWord .unsigned64 .unsigned64 (.ofNat ·.toNat)
  stored := (·.consumerTimeoutMs)
  store settings timeout := { settings with consumerTimeoutMs := timeout }

/-- Whether to stop at the ends of the partitions. -/
def exitOnEof : Field where
  Content := Bool
  name := "exit_on_eof"
  read := readFlag
  stored := (·.exitOnEof)
  store settings flag := { settings with exitOnEof := flag }

/-- The number of partitions. -/
def partitionCount : Field where
  Content := UInt32
  name := "partition_count"
  read := readWord .unsigned32 .unsigned32 (.ofNat ·.toNat)
  stored := (·.partitionCount)
  store settings count := { settings with partitionCount := count }

/-- The debug contexts. -/
def debug : Field where
  Content := Option String
  name := "debug"
  read := readOptional readText
  stored := (·.debug)
  store settings text := { settings with debug := text }

/-- The dropped leading octets. -/
def skipBytes : Field where
  Content := UInt64
  name := "skip_bytes"
  read := readWord .unsigned64 .size (.ofNat ·.toNat)
  stored := (·.skipBytes)
  store settings count := { settings with skipBytes := count }

/-- The client properties. -/
def kafka : Field where
  Content := PropertyMap
  name := "kafka"
  read := readProperties
  stored := (·.kafka)
  store settings map := { settings with kafka := map }

/-- The settings in the order of their names. -/
def byName : List Field :=
  [brokers, consumerTimeoutMs, consumerTopics, debug, exitOnEof, groupId, kafka, offset,
   partition, partitionCount, producerTopic, skipBytes]

/-- The settings in the order of their declaration. -/
def inOrder : List Field :=
  [brokers, groupId, consumerTopics, producerTopic, partition, offset, consumerTimeoutMs,
   exitOnEof, partitionCount, debug, skipBytes, kafka]

end Field

/-- Reads one setting from the value under its name. -/
def readField (entries : List (String × Value)) (settings : Settings) (field : Field) :
    Except Misfit Settings :=
  match Dictionary.get? field.name entries with
  | none => .ok settings
  | some value => (field.put value settings).mapError (·.under field.name)

/-- Reads the settings from values under their names. -/
def ofEntries (entries : List (String × Value)) : Except Misfit Settings :=
  Field.byName.foldlM (readField entries) {}

/-- Reads settings from as many values as there are. -/
def ofItems : List Field → List Value → Settings → Except Misfit Settings
  | field :: fields, value :: values, settings => do
    let settings ← field.put value settings
    ofItems fields values settings
  | _, _, settings => .ok settings

/-- Reads the settings from a single value. -/
def ofValue (value : Value) : Except Misfit Settings :=
  match value with
  | .dict _ entries => ofEntries entries
  | .list origin items => do
    let settings ← ofItems Field.inOrder items {}
    if Field.inOrder.length < items.length then
      throw { fault := .tooManyItems items.length, origin }
    pure settings
  | .scalar _ _ => wrongKind value .settings

end Settings
end OctetRelay
