/-
# Scripted surroundings

A script fixes beforehand what a run meets: the lists of topics that the brokers
give, the deliveries, and the calls during which shutdown is requested.  A
script that has run out of deliveries requests shutdown itself and lets the call
time out, so every scripted loop ends; one that has run out of lists of topics
gives empty ones.

Source: `ScriptedSource`; `SPEC_FULL.md` 13, scripted implementations.
-/

import OctetRelay.Lifecycle

namespace OctetRelay

/-- What a run meets, fixed beforehand. -/
structure Script where
  deliveries : List Delivery := []
  /-- The lists of topics, or why the brokers could not be asked. -/
  snapshots : List (Except String (List String)) := []
  /-- The number of the consume call, counted from one, during which shutdown is requested. -/
  stopOnConsume : Option Nat := none
  /-- The number of the question for topics, counted from one, during which shutdown is
  requested. -/
  stopOnQuery : Option Nat := none
  subscribeRefusal : Option String := none
  /-- Whether shutdown has been requested beforehand. -/
  stopped : Bool := false

namespace Script

/-- The longest time that a scripted run may wait for topics, in milliseconds. -/
def timeLimitMs : Nat := 30750

/-- How many pauses fit into the longest time. -/
def patience : Nat := timeLimitMs / Gate.pauseMs

/-- The reply to the question of a number, counted from zero. -/
def reply (script : Script) (query : Nat) : Gate.Reply :=
  { answer := (script.snapshots[query]?).getD (.ok [])
    stopInQuery := script.stopOnQuery == some (query + 1) }

/-- A call that times out while shutdown is requested. -/
def stopping : Pipeline.Consumption := { delivery := .timeout, stopRequested := true }

/-- The consume calls from the one of number `call`, counted from one, up to the one that finds
no delivery left. -/
def consumptionsFrom (stopOnConsume : Option Nat) (call : Nat) :
    List Delivery → List Pipeline.Consumption
  | [] => if stopOnConsume = some call then [stopping, stopping] else [stopping]
  | delivery :: rest =>
    if stopOnConsume = some call then
      stopping :: { delivery } :: rest.map ({ delivery := · }) ++ [stopping]
    else { delivery } :: consumptionsFrom stopOnConsume (call + 1) rest

/-- All consume calls up to the one that finds no delivery left. -/
def consumptions (script : Script) : List Pipeline.Consumption :=
  consumptionsFrom script.stopOnConsume 1 script.deliveries

/-- The deliveries that are left after so many consume calls. -/
def remaining (script : Script) (calls : Nat) : Nat :=
  let taken := match script.stopOnConsume with
    | some call => if 1 ≤ call ∧ call ≤ calls then calls - 1 else calls
    | none => calls
  script.deliveries.length - taken

/-- The surroundings that a script makes up. -/
def surroundings (script : Script) : Lifecycle.Surroundings :=
  { running := !script.stopped
    replies := script.reply
    patience
    refusal := fun request => script.subscribeRefusal.map (.subscription request.topics)
    consumptions := script.consumptions
    verdicts := fun _ => none }

/-- The time that a wait for topics takes, in milliseconds. -/
def elapsedMs (waited : Gate.Waited) : Nat :=
  match waited.outcome with
  | .exhausted _ => timeLimitMs
  | .ready | .cancelled _ => Gate.pauseMs * waited.trace.pauses

end Script
end OctetRelay
