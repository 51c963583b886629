/-
# The session with the brokers

A run with its clients that returns takes one of three courses.

| course | waiting | subscribing | result |
| --- | --- | --- | --- |
| `cancelled` | is cancelled | is not tried | the cancellation |
| `refused` | finds every topic | is refused | the refusal |
| `completed` | finds every topic | is accepted | the counters of the loop |

Whichever it takes (`course_of_drive`), its clients are torn down afterwards, so
its calls follow one protocol: questions, then a subscription and what the loop
relays as far as the run gets to them, and at the end the consumer's leave and a
flush.  `runWithClients_session` says so, together with what is returned and what
is summed up, and that a failure to flush is seen in the log alone.

Source: `run_with_clients`; `SPEC_FULL.md` 4.5, the order of setting up and of
tearing down.
-/

import OctetRelay.Lifecycle
import OctetRelay.Proofs.Relay
import OctetRelay.Proofs.Waiting

namespace OctetRelay

/-- Whether an effect is a call of the protocol.  What the producer is offered comes behind any
delivery and is left out. -/
def Effect.isProtocol : Effect → Bool
  | .queried | .subscribed _ _ | .consumed _ | .closed | .flushed => true
  | .paused | .offered _ _ | .logged _ => false

namespace Trace

/-- The calls of the protocol. -/
def protocol (trace : Trace) : Trace := trace.filter Effect.isProtocol

/-- The protocol of a joined trace is that of its parts. -/
theorem protocol_append (front back : Trace) :
    protocol (front ++ back) = protocol front ++ protocol back := List.filter_append ..

/-- The calls of the protocol are seen in the calls alone. -/
theorem protocol_calls (trace : Trace) : protocol (calls trace) = protocol trace := by
  rw [protocol, calls, List.filter_filter, protocol]
  congr 1
  funext effect
  cases effect <;> rfl

end Trace

namespace Pipeline

variable (codec : Codec) (plan : Plan) (verdicts : Verdicts)

/-- Offers apart, relaying consumes one delivery after the other. -/
theorem protocol_relayCalls (attempt : Nat) (isFirst : Bool) (deliveries : List Delivery) :
    (relayCalls codec plan verdicts attempt isFirst deliveries).protocol =
      deliveries.map .consumed := by
  induction deliveries generalizing attempt isFirst with
  | nil => rfl
  | cons delivery rest ih =>
    rw [relayCalls_cons, Trace.protocol_append, ih, List.map_cons]
    cases (relay codec isFirst delivery).payload? <;> rfl

/-- A run of the loop sums nothing up. -/
theorem summaries_run (state : State) (consumptions : List Consumption) :
    (run codec plan verdicts state consumptions).trace.summaries = [] := by
  have hloop : (loop codec plan verdicts state consumptions).trace.summaries = [] := by
    rw [Trace.summaries, List.filterMap_eq_nil_iff]
    intro event hevent
    have hstep := isOfStep_of_mem_loop codec plan verdicts hevent
    cases event with
    | summary => cases hstep
    | _ => rfl
  have hrun : (run codec plan verdicts state consumptions).trace.summaries =
      (loop codec plan verdicts state consumptions).trace.summaries := by
    simp only [run, Trace.summaries_append]
    split <;> exact List.append_nil _
  rw [hrun, hloop]

end Pipeline

namespace Lifecycle

/-- The calls of a session: the questions of the wait, the subscription and the calls of the loop
as far as the run gets to them, and the teardown. -/
def sessionCalls (waited : Gate.Waited) (request : Subscription) (refusal : Option RunError)
    (looped : Trace) : Trace :=
  let subscribed : Trace := match waited.outcome, refusal with
    | .ready, none => .subscribed request none :: looped
    | .ready, some error => [.subscribed request (some error)]
    | .cancelled _, _ | .exhausted _, _ => []
  List.replicate waited.trace.queries .queried ++ subscribed ++ [.closed, .flushed]

/-- The calls of a session are calls of the protocol, but for what the loop offers. -/
theorem protocol_sessionCalls (waited : Gate.Waited) (request : Subscription)
    (refusal : Option RunError) (looped : Trace) :
    (sessionCalls waited request refusal looped).protocol =
      sessionCalls waited request refusal looped.protocol := by
  have hqueries (count : Nat) : Trace.protocol (List.replicate count .queried) =
      List.replicate count .queried := List.filter_replicate_of_pos rfl
  simp only [sessionCalls, Trace.protocol_append, hqueries]
  cases waited.outcome <;> cases refusal <;> rfl

variable (codec : Codec) (settings : Settings) (around : Surroundings)

/-- How a run waits for its topics. -/
def waited : Gate.Waited :=
  Gate.wait around.replies around.patience around.running settings.consumerTopics

/-- The loop of a run that gets to it. -/
def looped : Pipeline.Stepped :=
  Pipeline.run codec (.ofSettings settings) around.verdicts
    { running := (waited settings around).running && !around.stopInSubscribe } around.consumptions

/-- The course of a run with its clients, up to their teardown: what it returns and what it did. -/
inductive Course : Except RunError Counters → Trace → Prop where
  /-- Shutdown was requested while topics were missing. -/
  | cancelled {pending : List String}
    (houtcome : (waited settings around).outcome = .cancelled pending) :
    Course (.error (.cancelled pending)) (waited settings around).trace
  /-- The subscription was refused. -/
  | refused {error : RunError} (houtcome : (waited settings around).outcome = .ready)
    (hrefusal : around.refusal (subscription settings) = some error) :
    Course (.error error)
      ((waited settings around).trace ++ [.subscribed (subscription settings) (some error)])
  /-- The run got through its loop. -/
  | completed (houtcome : (waited settings around).outcome = .ready)
    (hrefusal : around.refusal (subscription settings) = none) :
    Course (.ok (looped codec settings around).state.counters)
      ((waited settings around).trace ++ .subscribed (subscription settings) none ::
        (looped codec settings around).trace)

variable {codec settings around} {result : Except RunError Counters} {trace : Trace}

/-- A cancelled wait is the end of the run, with its own error. -/
theorem drive_cancelled {pending : List String}
    (h : (waited settings around).outcome = .cancelled pending) :
    drive codec settings around =
      { ending := .returned (.error (.cancelled pending))
        running := (waited settings around).running
        trace := (waited settings around).trace } := by
  unfold waited at h ⊢
  simp only [drive, h]

/-- A wait that goes on stalls the run. -/
theorem drive_exhausted {pending : List String}
    (h : (waited settings around).outcome = .exhausted pending) :
    (drive codec settings around).ending = .stalled := by
  unfold waited at h
  simp only [drive, h]

/-- After a wait that found all topics the run subscribes and enters its loop. -/
theorem drive_ready (h : (waited settings around).outcome = .ready) :
    drive codec settings around =
      let subscribed := subscribe codec settings around (waited settings around).running
      { subscribed with trace := (waited settings around).trace ++ subscribed.trace } := by
  unfold waited at h ⊢
  simp only [drive, h]

/-- **A run takes one of the three courses**, if it returns. -/
theorem course_of_drive (h : (drive codec settings around).ending = .returned result) :
    Course codec settings around result (drive codec settings around).trace := by
  cases houtcome : (waited settings around).outcome with
  | exhausted pending =>
    rw [drive_exhausted houtcome] at h
    cases h
  | cancelled pending =>
    rw [drive_cancelled houtcome] at h ⊢
    cases h
    exact .cancelled houtcome
  | ready =>
    rw [drive_ready houtcome] at h ⊢
    cases hrefusal : around.refusal (subscription settings) with
    | some error =>
      simp only [subscribe, hrefusal] at h ⊢
      cases h
      exact .refused houtcome hrefusal
    | none =>
      simp only [subscribe, hrefusal, transcode] at h ⊢
      split at h
      · cases h
      · cases h
        exact .completed houtcome hrefusal

/-- What is returned is what driving the clients returned. -/
theorem ending_runWithClients :
    (runWithClients codec settings around).ending = (drive codec settings around).ending := by
  simp only [runWithClients]
  split <;> rfl

/-- **Whatever is returned, the clients are torn down first.** -/
theorem trace_runWithClients (h : (drive codec settings around).ending = .returned result) :
    (runWithClients codec settings around).trace =
      (drive codec settings around).trace ++ teardown around ++ summary result ++
        [.logged .stopped] := by
  simp only [runWithClients, h]

/-- Tearing the clients down makes two calls, whatever the clients log and whether or not the flush
fails. -/
theorem calls_teardown (around : Surroundings) :
    (teardown around).calls = [.closed, .flushed] := by
  have hcall (call : Effect) (hcall : call.isCall = true) (events : List Event) :
      Trace.calls (call :: events.map .logged) = [call] := by
    rw [Trace.calls, List.filter_cons_of_pos hcall]
    exact congrArg (call :: ·) (Trace.calls_map_logged events)
  rw [teardown, Trace.calls_append, hcall .closed rfl, hcall .flushed rfl]
  rfl

/-- Tearing the clients down sums nothing up. -/
theorem summaries_teardown (around : Surroundings) : (teardown around).summaries = [] := by
  have hclients (events : List ClientEvent) :
      (events.map ClientEvent.event).filterMap Event.summary? = [] := by
    rw [List.filterMap_map, List.filterMap_eq_nil_iff]
    intro event _
    cases event <;> rfl
  have hlogged (call : Effect) (hcall : call.event? = none) (events : List Event) :
      Trace.summaries (call :: events.map .logged) = events.filterMap Event.summary? := by
    rw [Trace.summaries, Trace.events, List.filterMap_cons_none hcall]
    exact congrArg (List.filterMap Event.summary?) (Trace.events_map_logged events)
  rw [teardown, Trace.summaries_append, hlogged .closed rfl, hlogged .flushed rfl,
    List.filterMap_append, hclients, hclients]
  cases around.flushFailure <;> rfl

/-- A summary is only logged. -/
theorem calls_summary (result : Except RunError Counters) : (summary result).calls = [] := by
  cases result <;> rfl

/-- What is summed up is what is returned. -/
theorem summaries_summary (result : Except RunError Counters) :
    (summary result).summaries = result.toOption.toList := by
  cases result <;> rfl

/-- To the calls of driving its clients, a run adds those of the teardown. -/
theorem calls_runWithClients (h : (drive codec settings around).ending = .returned result) :
    (runWithClients codec settings around).trace.calls =
      (drive codec settings around).trace.calls ++ [.closed, .flushed] := by
  simp only [trace_runWithClients h, Trace.calls_append, calls_teardown, calls_summary,
    List.append_nil]
  exact List.append_nil _

/-- To what driving its clients sums up, a run adds what it returns. -/
theorem summaries_runWithClients (h : (drive codec settings around).ending = .returned result) :
    (runWithClients codec settings around).trace.summaries =
      (drive codec settings around).trace.summaries ++ result.toOption.toList := by
  simp only [trace_runWithClients h, Trace.summaries_append, summaries_teardown,
    summaries_summary, List.append_nil]
  exact List.append_nil _

/-- The calls of a course, with those of the teardown, are those of a session. -/
theorem Course.calls (h : Course codec settings around result trace) :
    trace.calls ++ [.closed, .flushed] =
      sessionCalls (waited settings around) (subscription settings)
        (around.refusal (subscription settings))
        (Pipeline.relayCalls codec (.ofSettings settings) around.verdicts 0 true
          trace.deliveries) := by
  have hwait : (waited settings around).trace.calls =
      List.replicate (waited settings around).trace.queries .queried := Gate.calls_waitFrom ..
  have hnothing : (waited settings around).trace.deliveries = [] := Gate.deliveries_waitFrom ..
  cases h with
  | cancelled houtcome =>
    simp only [sessionCalls, houtcome, hwait, List.append_nil]
  | refused houtcome hrefusal =>
    simp only [sessionCalls, houtcome, hrefusal, Trace.calls_append, hwait]
    rfl
  | completed houtcome hrefusal =>
    have hdeliveries : Trace.deliveries ((waited settings around).trace ++
        .subscribed (subscription settings) none :: (looped codec settings around).trace) =
          (looped codec settings around).trace.deliveries := by
      rw [Trace.deliveries_append, hnothing]
      rfl
    have hlooped : (looped codec settings around).trace.calls =
        Pipeline.relayCalls codec (.ofSettings settings) around.verdicts 0 true
          (looped codec settings around).trace.deliveries := by
      rw [looped, Pipeline.calls_run, Pipeline.deliveries_run]
      exact (Pipeline.loop_relays ..).2
    simp only [sessionCalls, houtcome, hrefusal, Trace.calls_append, hwait, hdeliveries, ← hlooped]
    rfl

/-- A course sums nothing up. -/
theorem Course.summaries (h : Course codec settings around result trace) :
    trace.summaries = [] := by
  have hwait : (waited settings around).trace.summaries = [] := Gate.summaries_waitFrom ..
  cases h with
  | cancelled => exact hwait
  | refused => rw [Trace.summaries_append, hwait]; rfl
  | completed =>
    rw [Trace.summaries_append, hwait]
    exact Pipeline.summaries_run ..

/-- A course returns counters just when it gets through the loop, those of the loop, and otherwise
the very error that it ended with. -/
theorem Course.returns (h : Course codec settings around result trace) :
    ((∃ counters, result = .ok counters) ↔
        (waited settings around).outcome = .ready ∧
          around.refusal (subscription settings) = none) ∧
      (∀ counters, result = .ok counters →
        counters = (looped codec settings around).state.counters) ∧
      (∀ pending, (waited settings around).outcome = .cancelled pending →
        result = .error (.cancelled pending)) ∧
      ((waited settings around).outcome = .ready →
        ∀ error, around.refusal (subscription settings) = some error → result = .error error) := by
  cases h with
  | cancelled houtcome => simp [houtcome]
  | refused houtcome hrefusal => simp [houtcome, hrefusal]
  | completed houtcome hrefusal => simp [houtcome, hrefusal]

/-- **The session of a run that returns.**  Its calls are questions, then a subscription if every
topic was found, then what the loop relays if the subscription was accepted, and at the end the
consumer's leave and a flush, on every course.  Offers apart, the loop consumes one delivery after
the other.  The run returns counters, those of its loop, just when every topic was found and the
subscription was accepted, and otherwise the error of the wait or of the subscription as it is;
counters are summed up in the log just when they are returned.  Whether the flush fails changes none
of this: not what is returned, not the calls, and not what the producer accepted. -/
theorem runWithClients_session (codec : Codec) (settings : Settings) (around : Surroundings)
    {result : Except RunError Counters}
    (h : (runWithClients codec settings around).ending = .returned result) :
    let trace := (runWithClients codec settings around).trace
    let waited := waited settings around
    let request := subscription settings
    let refusal := around.refusal request
    trace.calls = sessionCalls waited request refusal
        (Pipeline.relayCalls codec (.ofSettings settings) around.verdicts 0 true
          trace.deliveries) ∧
      trace.protocol =
        sessionCalls waited request refusal (trace.deliveries.map .consumed) ∧
      ((∃ counters, result = .ok counters) ↔ waited.outcome = .ready ∧ refusal = none) ∧
      (∀ counters, result = .ok counters →
        counters = (looped codec settings around).state.counters) ∧
      (∀ pending, waited.outcome = .cancelled pending → result = .error (.cancelled pending)) ∧
      (waited.outcome = .ready → ∀ error, refusal = some error → result = .error error) ∧
      trace.summaries = result.toOption.toList ∧
      ∀ failure logged,
        let other := runWithClients codec settings
          { around with flushFailure := failure, flushEvents := logged }
        other.ending = .returned result ∧ other.trace.calls = trace.calls ∧
          other.trace.produced = trace.produced := by
  intro trace waited request refusal
  have hdrive : (drive codec settings around).ending = .returned result := by
    rw [← ending_runWithClients, h]
  have hcourse := course_of_drive hdrive
  have hcalls : trace.calls = (drive codec settings around).trace.calls ++ [.closed, .flushed] :=
    calls_runWithClients hdrive
  have hdeliveries : trace.deliveries = (drive codec settings around).trace.deliveries := by
    rw [← Trace.deliveries_calls, hcalls, Trace.deliveries_append, Trace.deliveries_calls]
    exact List.append_nil _
  have hsession : trace.calls = sessionCalls waited request refusal
      (Pipeline.relayCalls codec (.ofSettings settings) around.verdicts 0 true
        trace.deliveries) := by
    rw [hcalls, hcourse.calls, ← hdeliveries]
  obtain ⟨hcounters, hlooped, hcancelled, hrefused⟩ := hcourse.returns
  refine ⟨hsession, ?_, hcounters, hlooped, hcancelled, hrefused, ?_, fun failure logged => ?_⟩
  · rw [← Trace.protocol_calls, hsession, protocol_sessionCalls, Pipeline.protocol_relayCalls]
  · rw [summaries_runWithClients hdrive, hcourse.summaries, List.nil_append]
  · intro other
    -- the clients are driven alike, whatever becomes of the flush
    have hother : (drive codec settings
        { around with flushFailure := failure, flushEvents := logged }).ending =
          .returned result := hdrive
    have hsame : other.trace.calls = trace.calls := (calls_runWithClients hother).trans hcalls.symm
    refine ⟨ending_runWithClients.trans hother, hsame, ?_⟩
    rw [← Trace.produced_calls, hsame, Trace.produced_calls]

/-- A topic that is listed by the second answer, one message, and a flush that fails. -/
theorem runWithClients_session_late_topic :
    let codec : Codec :=
      { Decoded := Octets
        decode := fun payload _ => some payload
        encode := fun value buffer => { buffer := buffer ++ value } }
    let settings : Settings := { consumerTopics := ["in"], producerTopic := "out" }
    let message : InboundMessage := { topic := "in", payload := some [1, 0xFF] }
    let around : Surroundings :=
      { replies := fun query => { answer := if query = 0 then .error "down" else .ok ["in"] }
        patience := 1
        consumptions :=
          [{ delivery := .message message }, { delivery := .timeout, stopRequested := true }]
        verdicts := fun _ => none
        flushFailure := some "late" }
    let counters : Counters :=
      { received := { count := 1, bytes := 2 }, sent := { count := 1, bytes := 2 } }
    let ran := runWithClients codec settings around
    ran.ending = .returned (.ok counters) ∧ ran.trace.summaries = [counters] ∧
      ran.trace.protocol =
        [.queried, .queried, .subscribed (subscription settings) none,
          .consumed (.message message), .consumed .timeout, .closed, .flushed] := by
  intro codec settings message around counters ran
  have hfound : Gate.waitFrom around.replies 0 1 true ["in"] =
      { outcome := .ready
        running := true
        trace := [.queried, .logged (.topicAvailable "in")] } := by
    rw [Gate.waitFrom_listed rfl, Gate.waitFrom_nil]
    rfl
  have hwaited : waited settings around =
      { outcome := .ready
        running := true
        trace :=
          [.queried, .logged (.metadataFailed "in" (RunError.broker "down").message), .paused,
            .queried, .logged (.topicAvailable "in")] } := by
    rw [waited, Gate.wait, Gate.waitFrom_missed_succ rfl]
    exact congrArg (Gate.Waited.after _) hfound
  have hready : (waited settings around).outcome = .ready := by rw [hwaited]
  have hdrive : (drive codec settings around).ending = .returned (.ok counters) := by
    rw [drive_ready hready, hwaited]
    rfl
  have hdeliveries : ran.trace.deliveries = [.message message, .timeout] := by
    rw [trace_runWithClients hdrive, drive_ready hready, hwaited]
    rfl
  have hreturned : ran.ending = .returned (.ok counters) := ending_runWithClients.trans hdrive
  obtain ⟨-, hprotocol, -, -, -, -, hsummaries, -⟩ :=
    runWithClients_session codec settings around hreturned
  refine ⟨hreturned, hsummaries, ?_⟩
  rw [hprotocol, hdeliveries, hwaited]
  rfl

end Lifecycle
end OctetRelay
