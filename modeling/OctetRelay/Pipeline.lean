/-
# The transcoding loop

One step of the loop consumes a delivery and handles it.  A message is counted,
transcoded into an emptied buffer and offered to the producer, and it counts as
sent if the producer accepts it; whatever goes wrong with it is logged, and the
loop goes on.  The loop stops when shutdown is requested, be it by somebody
else, by a failure of the consumer, or by the last expected end of a partition.

Source: `Pipeline`, `run`, `step`, `handle_message` and `handle_eof`;
`SPEC_FULL.md` 4.4, Consumer-Producer Loop.
-/

import OctetRelay.Settings.Basic
import OctetRelay.Trace
import OctetRelay.Transcoder

namespace OctetRelay
namespace Pipeline

/-- The settings that the loop reads. -/
structure Plan where
  inputTopic : String
  outputTopic : String
  partition : Option Int32
  consumeTimeoutMs : UInt64
  exitOnEof : Bool
  partitionCount : UInt32
  deriving DecidableEq

/-- The part of the settings that the loop reads. -/
def Plan.ofSettings (settings : Settings) : Plan :=
  { inputTopic := settings.consumerTopics.headD ""
    outputTopic := settings.producerTopic
    partition := settings.partition
    consumeTimeoutMs := settings.consumerTimeoutMs
    exitOnEof := settings.exitOnEof
    partitionCount := settings.partitionCount }

/-- One consume call: what it comes back with, and whether shutdown is requested during it. -/
structure Consumption where
  delivery : Delivery
  stopRequested : Bool := false
  deriving DecidableEq

/-- The producer's verdicts by the number of the attempt; a refusal is a reason. -/
abbrev Verdicts := Nat → Option String

/-- The state of the loop. -/
structure State where
  /-- Until shutdown is requested. -/
  running : Bool := true
  /-- Until the first payload has decoded. -/
  isFirst : Bool := true
  /-- The output of the message in hand. -/
  buffer : Octets := []
  counters : Counters := {}
  /-- The messages offered to the producer so far. -/
  attempts : Nat := 0
  deriving DecidableEq

/-- The state after some effects. -/
structure Stepped where
  state : State
  trace : Trace

/-- Offers the buffer, the encoding of a payload, to the producer. -/
def offer (plan : Plan) (verdicts : Verdicts) (state : State) (encoded : Nat) : Stepped :=
  let message : OutboundMessage :=
    { topic := plan.outputTopic, partition := plan.partition, payload := state.buffer }
  let verdict := verdicts state.attempts
  let state := { state with attempts := state.attempts + 1 }
  match verdict with
  | none =>
    { state := { state with counters := state.counters.recordSent (.ofNat encoded) }
      trace := [.offered message none, .logged (.messageProduced plan.outputTopic encoded)] }
  | some reason =>
    let error : ProduceError :=
      { topic := plan.outputTopic, length := message.payload.length, reason }
    { state, trace := [.offered message (some reason), .logged (.produceFailed error)] }

/-- Handles a message. -/
def handleMessage (codec : Codec) (plan : Plan) (verdicts : Verdicts) (state : State)
    (message : InboundMessage) : Stepped :=
  let read := Effect.logged (.messageRead message)
  let state := { state with counters := state.counters.recordReceived (.ofNat message.length) }
  if message.isEmpty then { state, trace := [read] }
  else
    let transcoded := transcode codec message.content state.isFirst state.buffer
    let state := { state with isFirst := transcoded.isFirst, buffer := transcoded.buffer }
    match transcoded.result with
    | .ok encoded =>
      let stepped := offer plan verdicts state encoded
      { stepped with trace := read :: stepped.trace }
    | .error (.decodeFailed _) =>
      { state, trace := [read, .logged (.decodeFailed message state.isFirst)] }
    | .error (.encodeFailed _ reason) =>
      { state, trace := [read, .logged (.encodeFailed message reason)] }

/-- Handles the end of a partition: where ends may stop the loop they are counted, and the last
expected one stops it. -/
def handleEnd (plan : Plan) (state : State) (partition : Int32) : Stepped :=
  let ended := Effect.logged (.partitionEnded plan.inputTopic partition)
  if plan.exitOnEof then
    let counters := state.counters.recordEnd
    if plan.partitionCount ≤ counters.ends then
      { state := { state with counters, running := false }
        trace := [ended, .logged (.allPartitionsEnded plan.partitionCount)] }
    else { state := { state with counters }, trace := [ended] }
  else { state, trace := [ended] }

/-- Handles what a consume call came back with. -/
def handle (codec : Codec) (plan : Plan) (verdicts : Verdicts) (state : State) :
    Delivery → Stepped
  | .message message => handleMessage codec plan verdicts state message
  | .timeout => { state, trace := [.logged (.waiting plan.consumeTimeoutMs)] }
  | .partitionEnd partition => handleEnd plan state partition
  | .unknownTopic reason =>
    { state := { state with running := false }
      trace := [.logged (.unknownTopic reason plan.inputTopic)] }
  | .unknownPartition reason =>
    { state := { state with running := false }
      trace := [.logged (.unknownPartition reason plan.inputTopic)] }
  | .failure reason =>
    { state := { state with running := false }, trace := [.logged (.consumerFailed reason)] }

/-- One consume call and the handling of what it comes back with. -/
def step (codec : Codec) (plan : Plan) (verdicts : Verdicts) (state : State)
    (consumption : Consumption) : Stepped :=
  let state :=
    { state with buffer := [], running := state.running && !consumption.stopRequested }
  let stepped := handle codec plan verdicts state consumption.delivery
  { stepped with trace := .consumed consumption.delivery :: stepped.trace }

/-- Steps until shutdown is requested or no consume call is left. -/
def loop (codec : Codec) (plan : Plan) (verdicts : Verdicts) (state : State) :
    List Consumption → Stepped
  | [] => { state, trace := [] }
  | consumption :: rest =>
    if state.running then
      let first := step codec plan verdicts state consumption
      let others := loop codec plan verdicts first.state rest
      { others with trace := first.trace ++ others.trace }
    else { state, trace := [] }

/-- Runs the loop.  It has returned if the state is no longer running; otherwise it is still
waiting for a consume call beyond those given. -/
def run (codec : Codec) (plan : Plan) (verdicts : Verdicts) (state : State)
    (consumptions : List Consumption) : Stepped :=
  let looped := loop codec plan verdicts state consumptions
  let stopped := if looped.state.running then [] else [Effect.logged .loopStopped]
  { looped with
    trace := .logged (.loopStarting plan.inputTopic plan.outputTopic) :: looped.trace ++ stopped }

end Pipeline
end OctetRelay
