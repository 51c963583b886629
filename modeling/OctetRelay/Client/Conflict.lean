/-
# Conflicts between client properties

Properties that were taken one by one may still contradict each other, or ask
for what the client cannot do.  A client is not created then, and the first
conflict counts: those between numbers and between features come first, then
the strategies of a group, the way to prove who one is, and last the group.

A few rules hold only for a property that was set; one that was not set gives
way and takes a value that fits.

Source: `SPEC_FULL.md` 7, the failures of client construction; what a client
checks of its properties as a whole.
-/

import OctetRelay.Client.Setup

namespace OctetRelay
namespace Client

/-- The two clients of a run. -/
inductive Role where
  | producer
  | consumer
  deriving DecidableEq, Repr

/-- Why a client is not created. -/
inductive Conflict where
  | fetchBelowMessage
  | receiptBelowFetch
  /-- A property that the brokers decide in the newer protocol of groups. -/
  | decidedByBrokers (name : String)
  | assignorOfBrokers
  | protocolType
  | pollBelowSession
  | transactionsAlone
  | socketAboveTransaction
  | tooManyInFlight
  | noRetry
  | backpressure
  | gaplessAlone
  | backoffAboveMost
  | timeoutBelowLinger
  | fewAcknowledgements
  | queueOrder
  | timeoutAboveTransaction
  | unknownStrategy (name : String)
  | mixedStrategies (whole : String)
  | noCredentials
  | noProvider (mechanism : String)
  | unknownMechanism (name : String)
  | noGroup
  deriving DecidableEq, Repr

namespace Conflict

/-- A property in the text of a conflict. -/
def mark (text : String) : String := "\x60" ++ text ++ "\x60"

/-- What an idempotent producer needs. -/
def whenIdempotent (name need : String) : String :=
  mark name ++ " must be " ++ need ++ " when " ++ mark "enable.idempotence" ++ " is true"

/-- What the newer protocol of groups has no use for. -/
def unsupported (name : String) : String :=
  mark name ++ " is not supported for " ++ mark "group.protocol=consumer"

/-- The text of a conflict. -/
def message : Conflict → String
  | .fetchBelowMessage => mark "fetch.max.bytes" ++ " must be >= " ++ mark "message.max.bytes"
  | .receiptBelowFetch =>
    mark "receive.message.max.bytes" ++ " must be >= " ++ mark "fetch.max.bytes" ++ " + 512"
  | .decidedByBrokers name => unsupported name ++ ". It is defined broker side"
  | .assignorOfBrokers =>
    unsupported "partition.assignment.strategy" ++ ". Use " ++ mark "group.remote.assignor"
      ++ " instead"
  | .protocolType => unsupported "group.protocol.type"
  | .pollBelowSession => mark "max.poll.interval.ms" ++ "must be >= " ++ mark "session.timeout.ms"
  | .transactionsAlone => mark "transactional.id" ++ " requires " ++ mark "enable.idempotence=true"
  | .socketAboveTransaction =>
    mark "socket.timeout.ms" ++ " must be set <= " ++ mark "transaction.timeout.ms" ++ " + 100"
  | .tooManyInFlight => whenIdempotent "max.in.flight" "set <= 5"
  | .noRetry => whenIdempotent "retries" "set >= 1"
  | .backpressure => whenIdempotent "queue.buffering.backpressure.threshold" "set to 1"
  | .gaplessAlone =>
    mark "enable.gapless.guarantee" ++ " requires " ++ mark "enable.idempotence"
      ++ " to be enabled"
  | .backoffAboveMost =>
    mark "reconnect.backoff.max.ms" ++ " must be >= " ++ mark "reconnect.backoff.ms"
  | .timeoutBelowLinger =>
    mark "message.timeout.ms" ++ " must be greater than " ++ mark "linger.ms"
  | .fewAcknowledgements => whenIdempotent "acks" ("set to " ++ mark "all")
  | .queueOrder => whenIdempotent "queuing.strategy" ("set to " ++ mark "fifo")
  | .timeoutAboveTransaction =>
    mark "message.timeout.ms" ++ " must be set <= " ++ mark "transaction.timeout.ms"
  | .unknownStrategy name => "Unsupported partition.assignment.strategy: " ++ name
  | .mixedStrategies whole =>
    "All partition.assignment.strategy (" ++ whole ++ ") assignors must have the same protocol "
      ++ "type, online migration between assignors with different protocol types is not supported"
  | .noCredentials => "sasl.username and sasl.password must be set"
  | .noProvider mechanism =>
    "No provider for SASL mechanism " ++ mechanism ++ ": recompile librdkafka with libsasl2 or "
      ++ "openssl support. Current build options: PLAIN"
  | .unknownMechanism name => "Unsupported SASL mechanism: " ++ name
  | .noGroup => "librdkafka failed to create consumer queue"

end Conflict

namespace Setup

/-- The first conflict of some rules, each with whether it is broken. -/
def firstBroken (rules : List (Bool × Conflict)) : Option Conflict :=
  (rules.find? fun rule => rule.1).map (·.2)

/-! ### Numbers and features -/

/-- The greatest size of a message. -/
def messageMost (setup : Setup) : Int := setup.ofClient.integer "message.max.bytes" 1000000

/-- The greatest size of a fetch: the one that was set, or one that holds a message and fits into
the queue. -/
def fetchMost (setup : Setup) : Int :=
  let queue := 1024 * setup.ofClient.integer "queued.max.messages.kbytes" 65536
  setup.ofClient.integer "fetch.max.bytes" (max (min 52428800 queue) setup.messageMost)

/-- How long the brokers wait for a transaction. -/
def transactionTimeout (setup : Setup) : Int :=
  setup.ofClient.integer "transaction.timeout.ms" 60000

/-- Whether a producer has transactions. -/
def isTransactional (setup : Setup) : Bool :=
  (setup.ofClient.text? "transactional.id" none).isSome

/-- Whether a producer writes each message once, which transactions need. -/
def isIdempotent (setup : Setup) : Bool :=
  setup.isTransactional || setup.ofClient.flag? "enable.idempotence" = some true

/-- Whether a group has the newer protocol. -/
def hasNewProtocol (setup : Setup) : Bool :=
  setup.ofClient.choice? "group.protocol" = some "consumer"

/-- The rules for the sizes of a consumer. -/
def sizeRules (setup : Setup) : List (Bool × Conflict) :=
  [(setup.ofClient.isOutside "fetch.max.bytes" fun n => setup.messageMost ≤ n,
    .fetchBelowMessage),
   (setup.ofClient.isOutside "receive.message.max.bytes" fun n => setup.fetchMost + 512 ≤ n,
    .receiptBelowFetch)]

/-- The rules for the group of a consumer. -/
def groupRules (setup : Setup) : List (Bool × Conflict) :=
  let values := setup.ofClient
  if setup.hasNewProtocol then
    [(values.isSet "session.timeout.ms", .decidedByBrokers "session.timeout.ms"),
     (values.isSet "partition.assignment.strategy", .assignorOfBrokers),
     (values.isSet "group.protocol.type", .protocolType),
     (values.isSet "heartbeat.interval.ms", .decidedByBrokers "heartbeat.interval.ms")]
  else
    [(values.integer "max.poll.interval.ms" 300000 < values.integer "session.timeout.ms" 45000,
      .pollBelowSession)]

/-- The rules for the features of a producer. -/
def featureRules (setup : Setup) : List (Bool × Conflict) :=
  let values := setup.ofClient
  [(setup.isTransactional && values.flag? "enable.idempotence" = some false,
    .transactionsAlone),
   (setup.isTransactional
      && values.isOutside "socket.timeout.ms" fun n => n ≤ setup.transactionTimeout + 100,
    .socketAboveTransaction),
   (setup.isIdempotent
      && values.isOutside "max.in.flight.requests.per.connection" fun n => n ≤ 5,
    .tooManyInFlight),
   (setup.isIdempotent && values.isOutside "message.send.max.retries" fun n => 1 ≤ n, .noRetry),
   (setup.isIdempotent
      && values.isOutside "queue.buffering.backpressure.threshold" fun n => n ≤ 1,
    .backpressure),
   (!setup.isIdempotent && values.flag? "enable.gapless.guarantee" = some true,
    .gaplessAlone)]

/-- The rule for connecting anew. -/
def backoffRules (setup : Setup) : List (Bool × Conflict) :=
  [(setup.ofClient.integer "reconnect.backoff.max.ms" 10000
      < setup.ofClient.integer "reconnect.backoff.ms" 100,
    .backoffAboveMost)]

/-- Whether a message is given up before it is sent, where both times count. -/
def lingersTooLong (setup : Setup) (timeout : Int) : Bool :=
  timeout ≠ 0 && (setup.ofClient.measure? "queue.buffering.max.ms").any fun linger =>
    linger.isAtLeast timeout.toNat

/-- The rules for the topics of a producer. -/
def topicRules (setup : Setup) (topics : PropertyValues) : List (Bool × Conflict) :=
  let timeout? := topics.integer? "message.timeout.ms"
  let timeout := timeout?.getD 300000
  let inForce := if setup.isTransactional then timeout?.getD setup.transactionTimeout else timeout
  [(setup.lingersTooLong timeout, .timeoutBelowLinger),
   (setup.isIdempotent && topics.isOutside "request.required.acks" fun n => n = -1,
    .fewAcknowledgements),
   (setup.isIdempotent && topics.choice? "queuing.strategy" = some "lifo", .queueOrder),
   (setup.isTransactional && timeout?.any fun n => setup.transactionTimeout < n,
    .timeoutAboveTransaction),
   (setup.lingersTooLong inForce, .timeoutBelowLinger)]

/-- The rules that compare numbers and features. -/
def rules (setup : Setup) : Role → List (Bool × Conflict)
  | .consumer => setup.sizeRules ++ setup.groupRules ++ setup.backoffRules
  | .producer =>
    setup.featureRules ++ setup.backoffRules
      ++ (setup.ofTopics.map setup.topicRules).getD []

/-! ### Strategies -/

/-- The strategies that are known, for groups of consumers only. -/
def knownStrategies : List String := ["range", "roundrobin", "cooperative-sticky"]

/-- The names in a list of strategies.  Blank characters and commas before a name are skipped, and
a list that goes on with nothing else has an empty name there. -/
def strategyNames : Nat → List Char → List (List Char)
  | _, [] => []
  | 0, _ => []
  | fuel + 1, text =>
    let start := text.dropWhile fun c => c = ' ' || c = ','
    let name := start.takeWhile (· ≠ ',')
    name :: strategyNames fuel ((start.drop name.length).drop 1)

/-- The conflict of the strategies. -/
def strategyConflict? (setup : Setup) : Option Conflict :=
  let whole :=
    (setup.ofClient.text? "partition.assignment.strategy" (some "range,roundrobin")).getD ""
  let isOfConsumers := setup.ofClient.text? "group.protocol.type" (some "consumer")
    = some "consumer"
  let names := (strategyNames whole.length whole.toList).map String.ofList
  match names.find? fun name => !(isOfConsumers && knownStrategies.contains name) with
  | some name => some (.unknownStrategy name)
  | none =>
    if names.contains "cooperative-sticky" && names.any fun name => name ≠ "cooperative-sticky"
    then some (.mixedStrategies whole)
    else none

/-! ### Proofs of identity -/

/-- The conflict of the mechanism to prove an identity, which only some connections need. -/
def mechanismConflict? (setup : Setup) : Option Conflict :=
  if setup.ofClient.choice? "security.protocol" ≠ some "sasl_plaintext" then none
  else
    let mechanism := (setup.ofClient.text? "sasl.mechanisms" (some "GSSAPI")).getD ""
    let hasText (name : String) : Bool := (setup.ofClient.text? name none).isSome
    if mechanism = "PLAIN" then
      if hasText "sasl.username" && hasText "sasl.password" then none else some .noCredentials
    else if mechanism = "GSSAPI" ∨ mechanism = "OAUTHBEARER" ∨ mechanism.startsWith "SCRAM-SHA-"
    then some (.noProvider mechanism)
    else some (.unknownMechanism mechanism)

/-- The conflict of a consumer without a group. -/
def groupConflict? (setup : Setup) : Role → Option Conflict
  | .producer => none
  | .consumer =>
    if (setup.ofClient.text? "group.id" none).getD "" = "" then some .noGroup else none

/-- The first conflict between the properties of a client. -/
def conflict? (setup : Setup) (role : Role) : Option Conflict :=
  (((firstBroken (setup.rules role)).or setup.strategyConflict?).or
    setup.mechanismConflict?).or (setup.groupConflict? role)

end Setup
end Client
end OctetRelay
