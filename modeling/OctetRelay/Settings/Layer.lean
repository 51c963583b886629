/-
# Layers of settings

A layer holds some of the settings and leaves the others to the layers below.
The layer of a configuration file gives every known key to its setting, takes
no notice of other `asn1.` keys, and hands all remaining keys to the clients.

Source: `ConfigOverrides` and `from_properties`; `SPEC_FULL.md` 11, the table of
keys.
-/

import OctetRelay.Log
import OctetRelay.Properties
import OctetRelay.Settings.Basic
import OctetRelay.Settings.Value

namespace OctetRelay

/-- Some of the settings. -/
structure SettingsLayer where
  brokers : Option String := none
  groupId : Option String := none
  consumerTopics : Option (List String) := none
  producerTopic : Option String := none
  partition : Option Int32 := none
  offset : Option StartOffset := none
  consumerTimeoutMs : Option UInt64 := none
  exitOnEof : Option Bool := none
  partitionCount : Option UInt32 := none
  debug : Option String := none
  skipBytes : Option UInt64 := none
  kafka : PropertyMap := .empty
  deriving DecidableEq

namespace SettingsLayer

/-- A number of a file, or the refusal of its text. -/
def readNumber (range : Text.IntegerRange) (key value : String) : Except MalformedSetting Int :=
  match Text.readInteger range value.toList with
  | .ok number => .ok number
  | .error fault => .error { key, value, fault := .integer fault }

/-- Whether a key looks like one of the program's own without being one. -/
def isUnrecognised (key : String) : Bool :=
  !(key == Settings.consumerTopicKey || key == Settings.producerTopicKey
      || key == Settings.partitionKey || key == Settings.timeoutKey || key == Settings.skipKey)
    && "asn1.".toList.isPrefixOf key.toList

/-- Puts one setting of a file into its layer. -/
def route (layer : SettingsLayer) (key value : String) : Except MalformedSetting SettingsLayer :=
  if key = Settings.consumerTopicKey then .ok { layer with consumerTopics := some [value] }
  else if key = Settings.producerTopicKey then .ok { layer with producerTopic := some value }
  else if key = Settings.partitionKey then
    (readNumber .signed32 key value).map fun n => { layer with partition := some (.ofInt n) }
  else if key = Settings.timeoutKey then
    (readNumber .unsigned64 key value).map fun n =>
      { layer with consumerTimeoutMs := some (.ofNat n.toNat) }
  else if key = Settings.skipKey then
    (readNumber .unsigned64 key value).map fun n =>
      { layer with skipBytes := some (.ofNat n.toNat) }
  else if key = "metadata.broker.list" ∨ key = "bootstrap.servers" then
    .ok { layer with brokers := some value }
  else if key = "group.id" then .ok { layer with groupId := some value }
  else if key = "debug" then .ok { layer with debug := some value }
  else if isUnrecognised key then .ok layer
  else .ok { layer with kafka := layer.kafka.insert key value }

/-- A layer on top of which the settings of a file were put, and what was logged on the way. -/
structure Routed where
  events : List Event
  result : Except MalformedSetting SettingsLayer

/-- Puts the settings of a file into a layer, up to the first one whose text is refused. -/
def routeAll : SettingsLayer → List (String × String) → Routed
  | layer, [] => { events := [], result := .ok layer }
  | layer, (key, value) :: rest =>
    match route layer key value with
    | .error setting => { events := [], result := .error setting }
    | .ok layer =>
      let routed := routeAll layer rest
      if isUnrecognised key then { routed with events := .settingIgnored key :: routed.events }
      else routed

/-- The layer of a configuration file. -/
def ofProperties (properties : Properties) : Routed :=
  routeAll {} properties.entries

/-- The settings of a layer as values under their names; an offset is written as text. -/
def toEntries (layer : SettingsLayer) (origin : Origin) : List (String × Value) :=
  let scalar (name : String) (content : Option Scalar) : List (String × Value) :=
    (content.map fun content => (name, Value.scalar origin content)).toList
  let topics : Option Value := layer.consumerTopics.map fun topics =>
    .list origin (topics.map fun topic => .scalar origin (.text topic))
  let properties : List (String × Value) :=
    layer.kafka.entries.map fun (key, value) => (key, .scalar origin (.text value))
  Dictionary.ofList
    (scalar "brokers" (layer.brokers.map .text)
      ++ scalar "group_id" (layer.groupId.map .text)
      ++ (topics.map fun topics => ("consumer_topics", topics)).toList
      ++ scalar "producer_topic" (layer.producerTopic.map .text)
      ++ scalar "partition" (layer.partition.map fun p => .signed (.ofInt p.toInt))
      ++ scalar "offset" (layer.offset.map fun offset => .text offset.text)
      ++ scalar "consumer_timeout_ms" (layer.consumerTimeoutMs.map .unsigned)
      ++ scalar "exit_on_eof" (layer.exitOnEof.map .flag)
      ++ scalar "partition_count" (layer.partitionCount.map fun n => .unsigned n.toUInt64)
      ++ scalar "debug" (layer.debug.map .text)
      ++ scalar "skip_bytes" (layer.skipBytes.map .unsigned)
      ++ if layer.kafka.entries.isEmpty then [] else [("kafka", .dict origin properties)])

end SettingsLayer
end OctetRelay
