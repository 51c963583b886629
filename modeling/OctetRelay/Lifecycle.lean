/-
# The life of a run

A run checks its settings, creates its producer and then its consumer, waits for
the consumed topics, subscribes and enters the loop.  Once the clients exist
they are always torn down: the consumer leaves its group, and then the producer
is flushed.  A failure to flush is logged and changes nothing else.

Source: `drive`, `run_with_clients` and `run`; `SPEC_FULL.md` 4.5, Lifecycle
Wiring.
-/

import OctetRelay.Client.Configuration
import OctetRelay.Gate
import OctetRelay.Pipeline

namespace OctetRelay
namespace Lifecycle

/-- What clients log of their own accord when they are torn down. -/
inductive ClientEvent where
  | consumerClosed
  | flushing
  | flushed
  deriving DecidableEq, Repr

/-- The event of a client. -/
def ClientEvent.event : ClientEvent → Event
  | .consumerClosed => .consumerClosed
  | .flushing => .flushing
  | .flushed => .flushed

/-- What the brokers answer to a run and what happens around it. -/
structure Surroundings where
  /-- Whether shutdown has not been requested beforehand. -/
  running : Bool := true
  /-- The replies to questions for topics, by their number. -/
  replies : Nat → Gate.Reply
  /-- How many pauses between questions are sat out. -/
  patience : Nat
  /-- The error with which a subscription is refused, if it is. -/
  refusal : Subscription → Option RunError := fun _ => none
  /-- Whether shutdown is requested while the subscription is under way. -/
  stopInSubscribe : Bool := false
  /-- What the consume calls come back with. -/
  consumptions : List Pipeline.Consumption
  /-- The producer's verdicts. -/
  verdicts : Pipeline.Verdicts
  /-- Why flushing fails, if it does. -/
  flushFailure : Option String := none
  /-- What the consumer logs when it leaves its group. -/
  closeEvents : List ClientEvent := []
  /-- What the producer logs when it is flushed. -/
  flushEvents : List ClientEvent := []

/-- The surroundings of clients that never reach a broker.  No question is answered, and shutdown
is requested beforehand unless the run is to go on. -/
def Surroundings.unreachable (running : Bool) (patience : Nat) : Surroundings :=
  { running
    replies := fun _ =>
      { answer := .error (Client.Error.metadata .brokerTransportFailure).message }
    patience
    consumptions := []
    verdicts := fun _ => none
    closeEvents := [.consumerClosed]
    flushEvents := [.flushing, .flushed] }

/-- How a run ends. -/
inductive Ending where
  /-- The run returned. -/
  | returned (result : Except RunError Counters)
  /-- The run was still going when its surroundings came to their end. -/
  | stalled

/-- How a run ended, whether shutdown had not been requested by then, and what was done. -/
structure Ran where
  ending : Ending
  running : Bool
  trace : Trace

/-- The loop of a run, after its subscription. -/
def transcode (codec : Codec) (settings : Settings) (around : Surroundings) (running : Bool) :
    Ran :=
  let looped := Pipeline.run codec (.ofSettings settings) around.verdicts { running }
    around.consumptions
  { ending := if looped.state.running then .stalled else .returned (.ok looped.state.counters)
    running := looped.state.running
    trace := looped.trace }

/-- The request of a run for its topics. -/
def subscription (settings : Settings) : Subscription :=
  { topics := settings.consumerTopics, offset := settings.offset, partition := settings.partition }

/-- Subscribes, and enters the loop unless that is refused. -/
def subscribe (codec : Codec) (settings : Settings) (around : Surroundings) (running : Bool) :
    Ran :=
  let request := subscription settings
  let running := running && !around.stopInSubscribe
  match around.refusal request with
  | some error =>
    { ending := .returned (.error error)
      running
      trace := [.subscribed request (some error)] }
  | none =>
    let ran := transcode codec settings around running
    { ran with trace := .subscribed request none :: ran.trace }

/-- Waits for the topics, subscribes and enters the loop. -/
def drive (codec : Codec) (settings : Settings) (around : Surroundings) : Ran :=
  let waited := Gate.wait around.replies around.patience around.running settings.consumerTopics
  match waited.outcome with
  | .ready =>
    let ran := subscribe codec settings around waited.running
    { ran with trace := waited.trace ++ ran.trace }
  | .cancelled pending =>
    { ending := .returned (.error (.cancelled pending))
      running := waited.running
      trace := waited.trace }
  | .exhausted _ => { ending := .stalled, running := waited.running, trace := waited.trace }

/-- The summary of a run that returned counters. -/
def summary : Except RunError Counters → Trace
  | .ok counters => [.logged (.summary counters)]
  | .error _ => []

/-- What tearing the clients down amounts to. -/
def teardown (around : Surroundings) : Trace :=
  let failure := match around.flushFailure with
    | some reason => [Event.flushFailed (RunError.broker reason).message]
    | none => []
  .closed :: (around.closeEvents.map ClientEvent.event).map .logged
    ++ .flushed :: (around.flushEvents.map ClientEvent.event ++ failure).map .logged

/-- Drives clients that exist, and tears them down. -/
def runWithClients (codec : Codec) (settings : Settings) (around : Surroundings) : Ran :=
  let ran := drive codec settings around
  match ran.ending with
  | .stalled => ran
  | .returned result =>
    { ran with
      trace := ran.trace ++ teardown around ++ summary result ++ [.logged .stopped] }

/-- A run that ends before it has clients. -/
def refused (fault : ConfigurationFault) (around : Surroundings) (trace : Trace) : Ran :=
  { ending := .returned (.error (.configuration fault)), running := around.running, trace }

/-- Runs with the given settings: they are checked before any client is created. -/
def run (codec : Codec) (settings : Settings) (around : Surroundings) : Ran :=
  match settings.validate with
  | .error error => refused (.settings error) around []
  | .ok () =>
    match Client.create .producer settings with
    | .error error => refused (.client error) around []
    | .ok _ =>
      let producer := Effect.logged (Client.creationEvent .producer settings)
      match Client.create .consumer settings with
      | .error error => refused (.client error) around [producer]
      | .ok _ =>
        let consumer := Effect.logged (Client.creationEvent .consumer settings)
        let ran := runWithClients codec settings around
        { ran with trace := producer :: consumer :: ran.trace }

end Lifecycle
end OctetRelay
