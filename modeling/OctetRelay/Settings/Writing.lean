/-
# Writing settings as a document

Settings are written as a dictionary of their values under their names.  A
setting that is not given is written as absent, a starting position as its text,
and a whole number with a sign only below zero.

Source: `PipelineConfig` and `serialize` of `StartOffset`; `SPEC_FULL.md` 3,
Pipeline Configuration.
-/

import OctetRelay.Settings.Basic
import OctetRelay.Settings.Value

namespace OctetRelay

/-- A whole number as a document has it. -/
def Scalar.ofInt (number : Int) : Scalar :=
  if number < 0 then .signed (.ofInt number) else .unsigned (.ofNat number.toNat)

namespace Settings

/-- The values of the settings under their names, in the order of their declaration. -/
def values (settings : Settings) (origin : Origin) : List (String × Value) :=
  let optional (content : Option Scalar) : Value := .scalar origin (content.getD .absent)
  let properties : List (String × Value) :=
    settings.kafka.entries.map fun (key, value) => (key, .scalar origin (.text value))
  [("brokers", .scalar origin (.text settings.brokers)),
   ("group_id", .scalar origin (.text settings.groupId)),
   ("consumer_topics",
     .list origin (settings.consumerTopics.map fun topic => .scalar origin (.text topic))),
   ("producer_topic", .scalar origin (.text settings.producerTopic)),
   ("partition", optional (settings.partition.map fun p => .ofInt p.toInt)),
   ("offset", optional (settings.offset.map fun offset => .text offset.text)),
   ("consumer_timeout_ms", .scalar origin (.ofInt settings.consumerTimeoutMs.toNat)),
   ("exit_on_eof", .scalar origin (.flag settings.exitOnEof)),
   ("partition_count", .scalar origin (.ofInt settings.partitionCount.toNat)),
   ("debug", optional (settings.debug.map .text)),
   ("skip_bytes", .scalar origin (.ofInt settings.skipBytes.toNat)),
   ("kafka", .dict origin properties)]

/-- The settings as a document. -/
def document (settings : Settings) : Value :=
  .dict .document (Dictionary.ofList (settings.values .document))

end Settings
end OctetRelay
