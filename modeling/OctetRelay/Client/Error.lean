/-
# Client errors

What the message client reports when something goes wrong, and what a consumer
makes of it.  Most failures carry an error code; a failed consume call decides
by its code what the caller sees as a delivery.

Source: `classify`; `SPEC_FULL.md` 3, Delivery, and 7, the fatal errors.
-/

import OctetRelay.Message

namespace OctetRelay
namespace Client

/-- The error codes of the client and the brokers. -/
inductive ErrorCode where
  | unknownTopic
  | unknownTopicOrPartition
  | unknownPartition
  | brokerTransportFailure
  | allBrokersDown
  | queueFull
  | fatal
  | requestTimedOut
  | messageTimedOut
  | offsetOutOfRange
  | topicAuthorizationFailed
  | invalidTopic
  | noError
  | unknown
  | operationTimedOut
  | partitionEnd
  deriving DecidableEq, Repr

namespace ErrorCode

/-- The name of a code. -/
def name : ErrorCode → String
  | .unknownTopic => "UnknownTopic"
  | .unknownTopicOrPartition => "UnknownTopicOrPartition"
  | .unknownPartition => "UnknownPartition"
  | .brokerTransportFailure => "BrokerTransportFailure"
  | .allBrokersDown => "AllBrokersDown"
  | .queueFull => "QueueFull"
  | .fatal => "Fatal"
  | .requestTimedOut => "RequestTimedOut"
  | .messageTimedOut => "MessageTimedOut"
  | .offsetOutOfRange => "OffsetOutOfRange"
  | .topicAuthorizationFailed => "TopicAuthorizationFailed"
  | .invalidTopic => "InvalidTopic"
  | .noError => "NoError"
  | .unknown => "Unknown"
  | .operationTimedOut => "OperationTimedOut"
  | .partitionEnd => "PartitionEOF"

/-- What a code says, and whether the client itself or a broker says it. -/
def description : ErrorCode → String
  | .unknownTopic => "Local: Unknown topic"
  | .unknownTopicOrPartition => "Broker: Unknown topic or partition"
  | .unknownPartition => "Local: Unknown partition"
  | .brokerTransportFailure => "Local: Broker transport failure"
  | .allBrokersDown => "Local: All broker connections are down"
  | .queueFull => "Local: Queue full"
  | .fatal => "Local: Fatal error"
  | .requestTimedOut => "Broker: Request timed out"
  | .messageTimedOut => "Local: Message timed out"
  | .offsetOutOfRange => "Broker: Offset out of range"
  | .topicAuthorizationFailed => "Broker: Topic authorization failed"
  | .invalidTopic => "Broker: Invalid topic"
  | .noError => "Success"
  | .unknown => "Unknown broker error"
  | .operationTimedOut => "Local: Timed out"
  | .partitionEnd => "Broker: No more messages"

/-- The text of a code. -/
def text (code : ErrorCode) : String := code.name ++ " (" ++ code.description ++ ")"

/-- All codes. -/
def all : List ErrorCode :=
  [.unknownTopic, .unknownTopicOrPartition, .unknownPartition, .brokerTransportFailure,
   .allBrokersDown, .queueFull, .fatal, .requestTimedOut, .messageTimedOut, .offsetOutOfRange,
   .topicAuthorizationFailed, .invalidTopic, .noError, .unknown, .operationTimedOut, .partitionEnd]

/-- The code of a name. -/
def ofName? (name : String) : Option ErrorCode :=
  all.find? fun code => code.name == name

end ErrorCode

/-- A failure of the client. -/
inductive Error where
  /-- A consume call failed. -/
  | consumption (code : ErrorCode)
  | production (code : ErrorCode)
  | metadata (code : ErrorCode)
  | flush (code : ErrorCode)
  | global (code : ErrorCode)
  | partitionEnd (partition : Int32)
  | noMessage
  /-- The client was dropped while it was at work. -/
  | cancelled
  /-- A text holds a character that the client has for the end of texts. -/
  | foreignText
  /-- A property was refused. -/
  | property (description key value : String)
  | creation (reason : String)
  | subscription (reason : String)
  | seek (reason : String)
  deriving DecidableEq, Repr

namespace Error

/-- The text of a failure. -/
def message : Error → String
  | .consumption code => "Message consumption error: " ++ code.text
  | .production code => "Message production error: " ++ code.text
  | .metadata code => "Meta data fetch error: " ++ code.text
  | .flush code => "Flush error: " ++ code.text
  | .global code => "Global error: " ++ code.text
  | .partitionEnd partition => "Partition EOF: " ++ toString partition.toInt
  | .noMessage => "No message received within the given poll interval"
  | .cancelled => "KafkaError (Client dropped)"
  | .foreignText => "FFI null error"
  | .property description key value =>
    "Client config error: " ++ description ++ " " ++ key ++ " " ++ value
  | .creation reason => "Client creation error: " ++ reason
  | .subscription reason => "Subscription error: " ++ reason
  | .seek reason => "Seek error: " ++ reason

/-- What a consumer makes of a failure.  The code of a failed consume call decides; a timeout is
no failure, and the end of a partition that is known by its code alone has the number -1. -/
def delivery (error : Error) : Delivery :=
  match error with
  | .partitionEnd partition => .partitionEnd partition
  | .consumption .unknownTopic | .consumption .unknownTopicOrPartition =>
    .unknownTopic error.message
  | .consumption .unknownPartition => .unknownPartition error.message
  | .consumption .operationTimedOut => .timeout
  | .consumption .partitionEnd => .partitionEnd (-1)
  | _ => .failure error.message

end Error
end Client
end OctetRelay
