/-
# Settings

The settings of one run, their defaults, the list that a configuration check
prints, and the rules that they have to keep.  A layer holds some of the
settings; `Layer.ofProperties` builds the one of a configuration file.

Source: `PipelineConfig`, `describe` and `validate`; `SPEC_FULL.md` 3, Pipeline
Configuration, and 11.
-/

import OctetRelay.Dictionary
import OctetRelay.StartOffset

namespace OctetRelay

/-- The settings of one run. -/
structure Settings where
  /-- The brokers, separated by commas. -/
  brokers : String := "localhost"
  groupId : String := "asn1-codec"
  /-- The consumed topics; exactly one is supported. -/
  consumerTopics : List String := []
  /-- The topic that receives the XML output. -/
  producerTopic : String := ""
  /-- The partition of produced messages; without one the partitioner decides. -/
  partition : Option Int32 := none
  /-- Where to start; without it the committed offset of the group decides. -/
  offset : Option StartOffset := none
  consumerTimeoutMs : UInt64 := 500
  /-- Whether to stop once every partition has reported its end. -/
  exitOnEof : Bool := false
  /-- How many ends of partition are expected. -/
  partitionCount : UInt32 := 1
  /-- The debug contexts of the client. -/
  debug : Option String := none
  /-- Leading octets dropped from the first block of the stream. -/
  skipBytes : UInt64 := 0
  /-- Further properties of the clients. -/
  kafka : PropertyMap := .empty
  deriving DecidableEq

namespace Settings

/-- The key of the consumed topic. -/
def consumerTopicKey : String := "asn1.j2735.topic.consumer"

/-- The key of the produced topic. -/
def producerTopicKey : String := "asn1.j2735.topic.producer"

/-- The key of the partition of produced messages. -/
def partitionKey : String := "asn1.j2735.kafka.partition"

/-- The key of the consume timeout. -/
def timeoutKey : String := "asn1.j2735.consumer.timeout.ms"

/-- The key of the dropped leading octets. -/
def skipKey : String := "asn1.codec.skip.bytes"

/-- The effective settings as keys and texts: those of the program, then those of the clients. -/
def describe (settings : Settings) : List (String × String) :=
  [("bootstrap.servers", settings.brokers),
   ("group.id", settings.groupId),
   (consumerTopicKey, ",".intercalate settings.consumerTopics),
   (producerTopicKey, settings.producerTopic),
   (partitionKey, (settings.partition.map fun p => toString p.toInt).getD "unassigned"),
   (timeoutKey, toString settings.consumerTimeoutMs),
   ("exit.on.eof", toString settings.exitOnEof),
   ("partition.count", toString settings.partitionCount),
   (skipKey, toString settings.skipBytes)]
  ++ (settings.offset.map fun offset => ("offset", offset.text)).toList
  ++ (settings.debug.map fun debug => ("debug", debug)).toList
  ++ settings.kafka.entries

end Settings

/-- A setting that has to be given. -/
inductive RequiredSetting where
  | consumerTopic
  | producerTopic
  deriving DecidableEq, Repr

/-- The name of a setting that has to be given. -/
def RequiredSetting.text : RequiredSetting → String
  | .consumerTopic => "consumer topic"
  | .producerTopic => "publisher topic"

/-- A rule that settings break. -/
inductive Violation where
  | noBrokers
  | severalConsumerTopics (count : Nat)
  | noTimeout
  | noPartitionCount
  | negativePartition (partition : Int32)
  | described (reason : String)
  deriving DecidableEq, Repr

/-- The text of a broken rule. -/
def Violation.message : Violation → String
  | .noBrokers => "Broker list must not be empty"
  | .severalConsumerTopics count => s!"Exactly one consumer topic is supported, got {count}"
  | .noTimeout => "Consumer timeout must be greater than 0"
  | .noPartitionCount => "Partition count must be greater than 0"
  | .negativePartition partition => "Invalid partition " ++ toString partition.toInt
  | .described reason => reason

end OctetRelay
