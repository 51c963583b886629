/-
# Setting up the two clients

A run has two clients, a producer and a consumer.  Each gets the brokers and
the client properties of the settings, which may replace what stands before
them; the starting position and the debug contexts are set last.

A client is created if every property is known and takes its value and no two
of them are in conflict; nothing is asked of the brokers for that.

Source: `client_config` of the consumer and of the producer; `SPEC_FULL.md` 11
and, for the starting position, 14.
-/

import OctetRelay.Client.Conflict
import OctetRelay.Log
import OctetRelay.Settings.Basic

namespace OctetRelay
namespace PropertyMap

/-- The properties of the second map set in the first. -/
def union (first second : PropertyMap) : PropertyMap :=
  ⟨Dictionary.union first.entries second.entries,
   Dictionary.ordered_union second.entries first.ordered⟩

/-- Sets a property if there is a value for it. -/
def insert? (map : PropertyMap) (key : String) (value : Option String) : PropertyMap :=
  match value with
  | some value => map.insert key value
  | none => map

end PropertyMap

namespace Client

/-- The properties set on the producer. -/
def producerProperties (settings : Settings) : PropertyMap :=
  ((PropertyMap.empty.insert "bootstrap.servers" settings.brokers).union settings.kafka).insert?
    "debug" settings.debug

/-- The properties set on the consumer. -/
def consumerProperties (settings : Settings) : PropertyMap :=
  let builtIn := ((PropertyMap.empty.insert "bootstrap.servers" settings.brokers).insert
    "group.id" settings.groupId).insert "enable.partition.eof" "true"
  ((builtIn.union settings.kafka).insert? "auto.offset.reset"
    (settings.offset.bind StartOffset.autoOffsetReset?)).insert? "debug" settings.debug

/-- The properties set on a client. -/
def properties (role : Role) (settings : Settings) : PropertyMap :=
  match role with
  | .producer => producerProperties settings
  | .consumer => consumerProperties settings

/-- Creates a client: the properties that were set on it. -/
def create (role : Role) (settings : Settings) : Except Error Setup :=
  match Setup.setAll {} (properties role settings).entries with
  | .error error => .error error
  | .ok setup =>
    match setup.conflict? role with
    | some conflict => .error (.creation (Setup.cut Setup.longestReason conflict.message))
    | none => .ok setup

namespace Setup

/-- Whether a client lists its properties when it is created, which is a debug context.  With a
queue for its log the list stays in there. -/
def listsProperties (setup : Setup) : Bool :=
  (setup.ofClient.flags "debug").contains "conf" && setup.ofClient.flag? "log.queue" ≠ some true

/-- Whether the brokers can be asked for their versions, as far as the version for brokers that
tell none says. -/
def asksVersions (setup : Setup) : Bool :=
  let version := (setup.ofClient.text? "broker.version.fallback" none).getD "0.10.0"
  ["0.9.0", "0.8.2", "0.8.1", "0.8.0"].all fun old => !version.startsWith old

/-- A program's name as the brokers take it: letters, digits, `-` and `.`, of which neither of the
last two is at an end; other octets become `-`. -/
def brokerName (name : String) : String :=
  let spelled := name.toList.flatMap fun c =>
    if c.isAlphanum || c = '.' then [c] else List.replicate c.utf8Size '-'
  let trimmed := spelled.dropWhile fun c => !c.isAlphanum
  String.ofList (trimmed.reverse.dropWhile fun c => !c.isAlphanum).reverse

/-- How the value of a property is listed.  The client itself decides on a few of them, and
secrets are not told. -/
def listedValue? (setup : Setup) (role : Role) (name : String) (value : PropertyValue) :
    Option String :=
  if ["sasl.username", "sasl.password"].contains name then value.shown?.map fun _ => "[redacted]"
  else if name = "client.software.version" then none
  else if name = "client.software.name" then value.shown?.map brokerName
  else if name = "log_level" then some "7"
  else if name = "enable.idempotence" ∧ role = .consumer then some "false"
  else if name = "api.version.request" ∧ setup.asksVersions then some "true"
  else value.shown?

/-- How many octets a line of the list has at most beside the name and the value. -/
def lineRoom : Nat := 2047 - "[thrd:app]:   ".utf8ByteSize - " = ".utf8ByteSize

/-- The properties that a client lists when it is created; those of topics come last. -/
def listed (setup : Setup) (role : Role) : PropertyMap :=
  if setup.listsProperties then
    .ofList <| (setup.ofClient ++ setup.ofTopics.getD []).filterMap fun (name, value) =>
      (setup.listedValue? role name value).map fun text =>
        (name, cut (lineRoom - name.utf8ByteSize) text)
  else .empty

end Setup

/-- What is logged when a client was created. -/
def creationEvent (role : Role) (settings : Settings) : Event :=
  match role with
  | .producer => .producerCreated settings.brokers settings.producerTopic
  | .consumer => .consumerCreated settings.brokers settings.groupId

end Client
end OctetRelay
