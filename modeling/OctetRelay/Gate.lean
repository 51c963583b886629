/-
# Waiting for topics

Subscribing to a topic that does not exist yet would end the consumer, so a run
first waits until the brokers list every topic it needs.  The topics are looked
for one after the other.  Each question is answered anew; an answer without the
topic, or none at all, is followed by a pause and the next question.

Shutdown is noticed before a question, never after one: a topic that is found
by a question during which shutdown is requested counts as found.

Nobody can wait forever, so the number of pauses is bounded by a patience.

Source: `TopicGate`, `wait_for`; `SPEC_FULL.md` 4.2, Topic Availability Gate.
-/

import OctetRelay.Trace

namespace OctetRelay
namespace Gate

/-- The length of a pause, in milliseconds. -/
def pauseMs : Nat := 1500

/-- What happens during one question and the pause that may follow it. -/
structure Reply where
  /-- The topics that the brokers list, or why they could not be asked. -/
  answer : Except String (List String)
  /-- Whether shutdown is requested while the question is under way. -/
  stopInQuery : Bool := false
  /-- Whether shutdown is requested during a pause after it. -/
  stopInPause : Bool := false

/-- Whether a reply lists a topic. -/
def Reply.lists (reply : Reply) (topic : String) : Bool :=
  match reply.answer with
  | .ok names => names.contains topic
  | .error _ => false

/-- What is logged when a reply does not list a topic. -/
def Reply.missEvent (reply : Reply) (topic : String) : Event :=
  match reply.answer with
  | .ok _ => .topicMissing topic pauseMs
  | .error reason => .metadataFailed topic (RunError.broker reason).message

/-- How waiting ends. -/
inductive Outcome where
  /-- Every topic was found. -/
  | ready
  /-- Shutdown was requested while these topics were missing. -/
  | cancelled (pending : List String)
  /-- The patience ran out while these topics were missing. -/
  | exhausted (pending : List String)
  deriving DecidableEq, Repr

/-- How waiting ended, whether shutdown had not been requested by then, and what was done. -/
structure Waited where
  outcome : Outcome
  running : Bool
  trace : Trace

/-- Puts effects in front of those of a wait. -/
def Waited.after (effects : Trace) (waited : Waited) : Waited :=
  { waited with trace := effects ++ waited.trace }

/-- Waits for topics, the next question being the one of number `query`. -/
def waitFrom (replies : Nat → Reply) (patience query : Nat) (running : Bool)
    (topics : List String) : Waited :=
  match topics with
  | [] => { outcome := .ready, running, trace := [] }
  | topic :: rest =>
    if running then
      let reply := replies query
      let running := !reply.stopInQuery
      if reply.lists topic then
        (waitFrom replies patience (query + 1) running rest).after
          [.queried, .logged (.topicAvailable topic)]
      else
        let missed := [.queried, .logged (reply.missEvent topic)]
        match patience with
        | 0 => { outcome := .exhausted (topic :: rest), running, trace := missed }
        | patience + 1 =>
          (waitFrom replies patience (query + 1) (running && !reply.stopInPause)
            (topic :: rest)).after (missed ++ [.paused])
    else { outcome := .cancelled (topic :: rest), running, trace := [] }
termination_by patience + topics.length
decreasing_by
  all_goals simp only [List.length_cons]; omega

/-- Waits for topics. -/
def wait (replies : Nat → Reply) (patience : Nat) (running : Bool) (topics : List String) :
    Waited :=
  waitFrom replies patience 0 running topics

end Gate
end OctetRelay
