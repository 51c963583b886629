/-
# Messages and deliveries

A consumed message, what a consume call can come back with, and a message on
its way out.

Source: `InboundMessage`, `Delivery` and `ProduceError`; `SPEC_FULL.md` 3, Data
Model.
-/

import OctetRelay.Octets
import OctetRelay.Timestamp

namespace OctetRelay

/-- A consumed message. -/
structure InboundMessage where
  topic : String
  partition : Int32 := 0
  offset : Int64 := 0
  payload : Option Octets
  key : Option Octets := none
  timestamp : Option Timestamp := none
  deriving DecidableEq

namespace InboundMessage

/-- The payload; empty where there is none. -/
def content (message : InboundMessage) : Octets := message.payload.getD []

/-- The length of the payload; zero where there is none. -/
def length (message : InboundMessage) : Nat := message.content.length

/-- Whether there is nothing to transcode. -/
def isEmpty (message : InboundMessage) : Bool := message.content.isEmpty

end InboundMessage

/-- What one consume call comes back with. -/
inductive Delivery where
  | message (message : InboundMessage)
  /-- Nothing arrived in time. -/
  | timeout
  /-- The consumer reached the end of a partition. -/
  | partitionEnd (partition : Int32)
  | unknownTopic (reason : String)
  | unknownPartition (reason : String)
  /-- Any other failure of the consumer. -/
  | failure (reason : String)
  deriving DecidableEq

/-- A message handed to the producer; without a partition the partitioner chooses one. -/
structure OutboundMessage where
  topic : String
  partition : Option Int32
  payload : Octets
  deriving DecidableEq

/-- A message the producer refused. -/
structure ProduceError where
  topic : String
  length : Nat
  reason : String
  deriving DecidableEq

/-- The text of a refusal. -/
def ProduceError.message (error : ProduceError) : String :=
  "failed to produce " ++ toString error.length ++ " bytes to " ++ error.topic ++ ": "
    ++ error.reason

end OctetRelay
