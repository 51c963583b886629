/-
# Log events

Everything the program writes to its logs is an event of this list.  An event
has a level, the part of the program that speaks, a message and named fields;
`line` is its form in a log file.

Source: the events that the gate, the loop and the lifecycle log; `SPEC_FULL.md`
10.
-/

import OctetRelay.Counters
import OctetRelay.Message
import OctetRelay.Text.Quoted
import OctetRelay.Text.Utf8

namespace OctetRelay

/-- How grave an event is. -/
inductive Level where
  | trace
  | debug
  | info
  | warn
  | error
  deriving DecidableEq, Repr

namespace Level

/-- The gravity of a level: the graver, the greater. -/
def rank : Level → Nat
  | .trace => 0
  | .debug => 1
  | .info => 2
  | .warn => 3
  | .error => 4

/-- The lower-case name. -/
def text : Level → String
  | .trace => "trace"
  | .debug => "debug"
  | .info => "info"
  | .warn => "warn"
  | .error => "error"

/-- The upper-case name, as log files show it. -/
def label (level : Level) : String := level.text.map Char.toUpper

end Level

/-- The value of a field. -/
inductive FieldValue where
  | text (text : String)
  | number (number : Int)
  | flag (flag : Bool)
  deriving DecidableEq, Repr

/-- The text of a field's value. -/
def FieldValue.message : FieldValue → String
  | .text content => content
  | .number value => toString value
  | .flag value => toString value

/-- Something worth a line in the log. -/
inductive Event where
  | lineSkipped (line : String)
  | settingIgnored (key : String)
  | unknownLogLevel (level : String)
  | programStarting (config brokers : String)
  | shutdownSignalled
  | producerCreated (brokers topic : String)
  | consumerCreated (brokers group : String)
  | consumerClosed
  | flushing
  | flushed
  | topicAvailable (topic : String)
  | topicMissing (topic : String) (retryMs : Nat)
  | metadataFailed (topic reason : String)
  | loopStarting (input output : String)
  | loopStopped
  | waiting (timeoutMs : UInt64)
  | messageRead (message : InboundMessage)
  | decodeFailed (message : InboundMessage) (isFirst : Bool)
  | encodeFailed (message : InboundMessage) (reason : String)
  | produceFailed (error : ProduceError)
  | messageProduced (topic : String) (length : Nat)
  | partitionEnded (topic : String) (partition : Int32)
  | allPartitionsEnded (count : UInt32)
  | unknownTopic (reason topic : String)
  | unknownPartition (reason topic : String)
  | consumerFailed (reason : String)
  | flushFailed (reason : String)
  | summary (counters : Counters)
  | stopped
  deriving DecidableEq

namespace Event

/-- The level of an event. -/
def level : Event → Level
  | .messageRead _ => .trace
  | .waiting _ | .messageProduced _ _ => .debug
  | .lineSkipped _ | .settingIgnored _ | .unknownLogLevel _ | .topicMissing _ _ => .warn
  | .metadataFailed _ _ | .decodeFailed _ _ | .encodeFailed _ _ | .produceFailed _
  | .unknownTopic _ _ | .unknownPartition _ _ | .consumerFailed _ | .flushFailed _ => .error
  | .programStarting _ _ | .shutdownSignalled | .producerCreated _ _ | .consumerCreated _ _
  | .consumerClosed | .flushing | .flushed | .topicAvailable _ | .loopStarting _ _ | .loopStopped
  | .partitionEnded _ _ | .allPartitionsEnded _ | .summary _ | .stopped => .info

/-- The part of the program that speaks. -/
def target : Event → String
  | .lineSkipped _ => "acm_config::properties"
  | .settingIgnored _ => "acm_config"
  | .unknownLogLevel _ => "acm::logging"
  | .programStarting _ _ => "acm"
  | .shutdownSignalled => "acm_processor::shutdown"
  | .producerCreated _ _ | .flushing | .flushed => "acm_processor::kafka::sink"
  | .consumerCreated _ _ | .consumerClosed => "acm_processor::kafka::source"
  | .topicAvailable _ | .topicMissing _ _ | .metadataFailed _ _ => "acm_processor::gate"
  | .loopStarting _ _ | .loopStopped | .waiting _ | .messageRead _ | .decodeFailed _ _
  | .encodeFailed _ _ | .produceFailed _ | .messageProduced _ _ | .partitionEnded _ _
  | .allPartitionsEnded _ | .unknownTopic _ _ | .unknownPartition _ _
  | .consumerFailed _ => "acm_processor::pipeline"
  | .flushFailed _ | .stopped => "acm_processor::runner"
  | .summary _ => "acm_processor::stats"

/-- The message of an event. -/
def message : Event → String
  | .lineSkipped _ => "Too many pieces in the configuration file line; skipping"
  | .settingIgnored _ => "Ignoring unrecognised ASN1 codec setting"
  | .unknownLogLevel _ => "Unknown log level; logging everything"
  | .programStarting _ _ => "Starting ASN.1 codec module"
  | .shutdownSignalled => "Termination signal received; shutting down"
  | .producerCreated _ _ => "Created Kafka producer"
  | .consumerCreated _ _ => "Created Kafka consumer"
  | .consumerClosed => "Kafka consumer closed"
  | .flushing => "Flushing pending messages..."
  | .flushed => "Flush completed"
  | .topicAvailable _ => "Topic is available"
  | .topicMissing _ _ => "Topic not available yet; waiting"
  | .metadataFailed _ _ => "Failed to fetch topic metadata"
  | .loopStarting _ _ => "Starting transcoding loop"
  | .loopStopped => "Transcoding loop stopped"
  | .waiting _ => "Waiting for more messages"
  | .messageRead _ => "Read message"
  | .decodeFailed _ _ => "Failed to decode message"
  | .encodeFailed _ _ => "Failed to encode message as XER"
  | .produceFailed _ => "Failed to produce message"
  | .messageProduced _ _ => "Produced message"
  | .partitionEnded _ _ => "Reached end of partition"
  | .allPartitionsEnded _ => "All partitions reached their end; stopping"
  | .unknownTopic _ _ => "Unknown topic"
  | .unknownPartition _ _ => "Unknown partition"
  | .consumerFailed _ => "Consumer error"
  | .flushFailed _ => "Failed to flush producer"
  | .summary _ => "Run summary"
  | .stopped => "Transcoder stopped"

/-- The fields of an event, in the order in which a line shows them. -/
def fields : Event → List (String × FieldValue)
  | .lineSkipped line => [("line", .text line)]
  | .settingIgnored key => [("key", .text key)]
  | .unknownLogLevel level => [("level", .text level)]
  | .programStarting config brokers => [("config", .text config), ("brokers", .text brokers)]
  | .producerCreated brokers topic => [("brokers", .text brokers), ("topic", .text topic)]
  | .consumerCreated brokers group => [("brokers", .text brokers), ("group_id", .text group)]
  | .topicAvailable topic => [("topic", .text topic)]
  | .topicMissing topic retryMs => [("topic", .text topic), ("retry_ms", .number retryMs)]
  | .metadataFailed topic reason => [("topic", .text topic), ("error", .text reason)]
  | .loopStarting input output => [("input", .text input), ("output", .text output)]
  | .waiting timeoutMs => [("timeout_ms", .number timeoutMs.toNat)]
  | .messageRead message =>
    [("topic", .text message.topic), ("partition", .number message.partition.toInt),
     ("offset", .number message.offset.toInt), ("bytes", .number message.length),
     ("timestamp", .text (Text.quotedOption (message.timestamp.map Timestamp.text))),
     ("key", .text (Text.quotedOption (message.key.map Text.decodeLenient)))]
  | .decodeFailed message isFirst =>
    [("topic", .text message.topic), ("offset", .number message.offset.toInt),
     ("bytes", .number message.length), ("first_block", .flag isFirst)]
  | .encodeFailed message reason =>
    [("reason", .text reason), ("topic", .text message.topic),
     ("offset", .number message.offset.toInt), ("bytes", .number message.length)]
  | .produceFailed error => [("error", .text error.message)]
  | .messageProduced topic length => [("topic", .text topic), ("bytes", .number length)]
  | .partitionEnded topic partition =>
    [("topic", .text topic), ("partition", .number partition.toInt)]
  | .allPartitionsEnded count => [("partitions", .number count.toNat)]
  | .unknownTopic reason topic => [("reason", .text reason), ("topic", .text topic)]
  | .unknownPartition reason topic => [("reason", .text reason), ("topic", .text topic)]
  | .consumerFailed reason => [("reason", .text reason)]
  | .flushFailed reason => [("error", .text reason)]
  | .summary counters =>
    [("received", .number counters.received.count.toNat),
     ("received_bytes", .number counters.received.bytes.toNat),
     ("sent", .number counters.sent.count.toNat),
     ("sent_bytes", .number counters.sent.bytes.toNat),
     ("filtered", .number counters.filtered.count.toNat)]
  | .shutdownSignalled | .consumerClosed | .flushing | .flushed | .loopStopped | .stopped => []

/-- The event as a log file shows it, behind its time. -/
def line (event : Event) : String :=
  event.level.label ++ " " ++ event.target ++ ": " ++ event.message
    ++ String.join (event.fields.map fun field => " " ++ field.1 ++ "=" ++ field.2.message)

end Event
end OctetRelay
