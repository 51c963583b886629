/-
# Traces

A run acts on its surroundings: it asks the brokers, it sleeps, it writes to its
log.  A trace lists these effects in the order in which they happen, and what a
run did is read off its trace by the views below.  Every view of a joined trace
joins the views of its parts.

Source: `MessageSource`, `TopicMetadata` and `MessageSink`; `SPEC_FULL.md` 6,
the broker client.
-/

import OctetRelay.Log
import OctetRelay.RunError
import OctetRelay.StartOffset

namespace OctetRelay

/-- A request to read topics, and from where. -/
structure Subscription where
  topics : List String
  offset : Option StartOffset
  partition : Option Int32
  deriving DecidableEq

/-- One thing that a run does to its surroundings. -/
inductive Effect where
  /-- Asks the brokers which topics there are. -/
  | queried
  /-- Sleeps before the next question. -/
  | paused
  /-- Subscribes; a refusal comes with its error. -/
  | subscribed (request : Subscription) (refusal : Option RunError)
  /-- Waits for one delivery. -/
  | consumed (delivery : Delivery)
  /-- Hands a message to the producer; a refusal comes with its reason. -/
  | offered (message : OutboundMessage) (refusal : Option String)
  /-- Leaves the consumer group. -/
  | closed
  /-- Waits for queued messages to be delivered. -/
  | flushed
  | logged (event : Event)
  deriving DecidableEq

/-- The effects of a run, in order. -/
abbrev Trace := List Effect

namespace Effect

/-- The event that an effect logs. -/
def event? : Effect → Option Event
  | .logged event => some event
  | _ => none

/-- The message of an effect, if the producer accepted it. -/
def accepted? : Effect → Option OutboundMessage
  | .offered message none => some message
  | _ => none

/-- The message of an effect, whether or not the producer accepted it. -/
def offered? : Effect → Option OutboundMessage
  | .offered message _ => some message
  | _ => none

/-- The delivery of a consume call. -/
def delivery? : Effect → Option Delivery
  | .consumed delivery => some delivery
  | _ => none

/-- The request of a subscription that was not refused. -/
def subscription? : Effect → Option Subscription
  | .subscribed request none => some request
  | _ => none

/-- Whether an effect faces the brokers, rather than the log or the clock. -/
def isCall : Effect → Bool
  | .logged _ | .paused => false
  | _ => true

end Effect

namespace Trace

/-- What was logged. -/
def events (trace : Trace) : List Event := trace.filterMap Effect.event?

/-- The messages that the producer accepted. -/
def produced (trace : Trace) : List OutboundMessage := trace.filterMap Effect.accepted?

/-- The messages handed to the producer, refused ones included. -/
def offered (trace : Trace) : List OutboundMessage := trace.filterMap Effect.offered?

/-- What the consume calls came back with. -/
def deliveries (trace : Trace) : List Delivery := trace.filterMap Effect.delivery?

/-- The subscriptions that were not refused. -/
def subscriptions (trace : Trace) : List Subscription := trace.filterMap Effect.subscription?

/-- The effects that face the brokers. -/
def calls (trace : Trace) : Trace := trace.filter Effect.isCall

/-- The number of questions for topics. -/
def queries (trace : Trace) : Nat := trace.count .queried

/-- The number of pauses between questions. -/
def pauses (trace : Trace) : Nat := trace.count .paused

/-- The number of times that the producer was flushed. -/
def flushes (trace : Trace) : Nat := trace.count .flushed

/-- Whether the consumer left its group. -/
def isClosed (trace : Trace) : Bool := trace.contains .closed

/-- Events are logged in both parts. -/
@[simp] theorem events_append (front back : Trace) :
    events (front ++ back) = events front ++ events back := List.filterMap_append

/-- Messages are accepted in both parts. -/
@[simp] theorem produced_append (front back : Trace) :
    produced (front ++ back) = produced front ++ produced back := List.filterMap_append

/-- Messages are handed over in both parts. -/
@[simp] theorem offered_append (front back : Trace) :
    offered (front ++ back) = offered front ++ offered back := List.filterMap_append

/-- Deliveries are consumed in both parts. -/
@[simp] theorem deliveries_append (front back : Trace) :
    deliveries (front ++ back) = deliveries front ++ deliveries back := List.filterMap_append

/-- Subscriptions are made in both parts. -/
@[simp] theorem subscriptions_append (front back : Trace) :
    subscriptions (front ++ back) = subscriptions front ++ subscriptions back :=
  List.filterMap_append

/-- The brokers are faced in both parts. -/
@[simp] theorem calls_append (front back : Trace) :
    calls (front ++ back) = calls front ++ calls back := by
  simp [calls]

/-- Questions add up. -/
@[simp] theorem queries_append (front back : Trace) :
    queries (front ++ back) = queries front + queries back := List.count_append

/-- Pauses add up. -/
@[simp] theorem pauses_append (front back : Trace) :
    pauses (front ++ back) = pauses front + pauses back := List.count_append

/-- A view that shows nothing but calls is seen in the calls alone. -/
theorem filterMap_calls {α : Type} {view : Effect → Option α}
    (hview : ∀ effect, effect.isCall = false → view effect = none) (trace : Trace) :
    (calls trace).filterMap view = trace.filterMap view := by
  rw [calls, List.filterMap_filter]
  congr 1
  funext effect
  cases hcall : effect.isCall with
  | true => rfl
  | false => exact (hview effect hcall).symm

/-- What was offered is seen in the calls alone. -/
theorem offered_calls (trace : Trace) : offered (calls trace) = offered trace :=
  filterMap_calls (fun effect h => by
    cases effect with
    | paused | logged => rfl
    | _ => cases h) trace

/-- What was accepted is seen in the calls alone. -/
theorem produced_calls (trace : Trace) : produced (calls trace) = produced trace :=
  filterMap_calls (fun effect h => by
    cases effect with
    | paused | logged => rfl
    | _ => cases h) trace

/-- What was consumed is seen in the calls alone. -/
theorem deliveries_calls (trace : Trace) : deliveries (calls trace) = deliveries trace :=
  filterMap_calls (fun effect h => by
    cases effect with
    | paused | logged => rfl
    | _ => cases h) trace

/-- A message was offered if it was offered with some verdict. -/
theorem mem_offered {outbound : OutboundMessage} {trace : Trace} (h : outbound ∈ offered trace) :
    ∃ refusal, .offered outbound refusal ∈ trace := by
  obtain ⟨effect, hmem, heffect⟩ := List.mem_filterMap.1 h
  cases effect with
  | offered message refusal =>
    obtain rfl := Option.some.inj heffect
    exact ⟨refusal, hmem⟩
  | queried | paused | subscribed | consumed | closed | flushed | logged => cases heffect

/-- An event that is logged is seen first. -/
@[simp] theorem events_logged_cons (event : Event) (trace : Trace) :
    events (.logged event :: trace) = event :: events trace := rfl

/-- Logging consumes nothing. -/
@[simp] theorem deliveries_logged_cons (event : Event) (trace : Trace) :
    deliveries (.logged event :: trace) = deliveries trace := rfl

/-- Logging does not face the brokers. -/
@[simp] theorem calls_logged_cons (event : Event) (trace : Trace) :
    calls (.logged event :: trace) = calls trace := rfl

/-- Of events that are logged those events are seen. -/
@[simp] theorem events_map_logged (events : List Event) :
    Trace.events (events.map .logged) = events := by
  simp [Trace.events, List.filterMap_map, Function.comp_def, Effect.event?]

/-- While events are logged nothing is accepted. -/
@[simp] theorem produced_map_logged (events : List Event) : produced (events.map .logged) = [] := by
  simp [produced, Effect.accepted?]

/-- While events are logged nothing is consumed. -/
@[simp] theorem deliveries_map_logged (events : List Event) :
    deliveries (events.map .logged) = [] := by
  simp [deliveries, Effect.delivery?]

/-- While events are logged the brokers are not faced. -/
@[simp] theorem calls_map_logged (events : List Event) : calls (events.map .logged) = [] := by
  simp [calls, List.filter_eq_nil_iff, Effect.isCall]

end Trace
end OctetRelay
