/-
# How the loop of a run ends

Three things end the loop of a run, and one flag stands for all of them:

| cause | flag | log | result |
| --- | --- | --- | --- |
| shutdown is requested | down | | counters |
| the last expected end of a partition | down | information | counters |
| a failure of the consumer | down | error | counters |

So a run that got as far as its loop returns counters whatever ended it, and the
program exits with 0.  A failure of the consumer is told in the log and nowhere
else (`runWithClients_of_failure`).  `FailsAfter` names the runs that come to
such a failure, and `StopCause` the ways in which a loop can end.

Source: `drive` and `run` of the command line; `SPEC_FULL.md` 6, the exit codes,
and 7.
-/

import OctetRelay.Command.Session
import OctetRelay.Proofs.PlannedEnd
import OctetRelay.Proofs.Session

namespace OctetRelay
namespace Pipeline

/-- What ends a loop after so many consume calls. -/
inductive StopCause (plan : Plan) (running : Bool) (consumptions : List Consumption) : Nat → Prop
    where
  /-- Shutdown was requested before the first call. -/
  | beforehand (hdown : running = false) : StopCause plan running consumptions 0
  /-- Shutdown was requested during the last call. -/
  | requested {last : Nat} {consumption : Consumption}
    (hget : consumptions[last]? = some consumption) (hasked : consumption.stopRequested = true) :
    StopCause plan running consumptions (last + 1)
  /-- The last call brought the last expected end of a partition. -/
  | planned {last : Nat} {consumption : Consumption}
    (hget : consumptions[last]? = some consumption) (hexit : plan.exitOnEof = true)
    (hend : consumption.delivery.isEnd = true)
    (hcount : (consumptions.take (last + 1)).countP (·.delivery.isEnd) = plan.expectedEnds) :
    StopCause plan running consumptions (last + 1)
  /-- The consumer failed in the last call. -/
  | failed {last : Nat} {consumption : Consumption}
    (hget : consumptions[last]? = some consumption)
    (hfatal : consumption.delivery.isFatal = true) :
    StopCause plan running consumptions (last + 1)

variable {plan : Plan} {consumptions : List Consumption}

/-- A loop that returns after so many calls has a cause to. -/
theorem ReturnsAfter.stopCause {running : Bool} {calls : Nat}
    (h : ReturnsAfter plan running consumptions calls) :
    StopCause plan running consumptions calls := by
  cases running with
  | false =>
    obtain rfl : calls = 0 := h
    exact .beforehand rfl
  | true =>
    obtain ⟨last, rfl, ⟨consumption, hget, hcause⟩, -⟩ := h
    rcases hcause with hasked | hfatal | ⟨hexit, hend, hcount⟩
    · exact .requested hget hasked
    · exact .failed hget hfatal
    · exact .planned hget hexit hend ((Nat.zero_add _).symm.trans hcount)

/-- Calls that come later give no cause to stop at an earlier one. -/
theorem stopsAt_append {front back : List Consumption} {ends index : Nat}
    (hindex : index < front.length) :
    StopsAt plan ends (front ++ back) index ↔ StopsAt plan ends front index := by
  rw [StopsAt, StopsAt, List.getElem?_append_left hindex, List.take_append_of_le_length hindex]

/-- The first failure of the consumer ends a loop that nothing has ended before. -/
theorem returnsAfter_of_isFatal {front : List Consumption} {failed : Consumption}
    (hfront : ∀ index, ¬ StopsAt plan 0 front index) (hfatal : failed.delivery.isFatal = true)
    (rest : List Consumption) :
    ReturnsAfter plan true (front ++ failed :: rest) (front.length + 1) := by
  refine ⟨front.length, rfl, ⟨failed, ?_, .inr (.inl hfatal)⟩, fun index hindex => ?_⟩
  · rw [List.getElem?_append_right (Nat.le_refl _), Nat.sub_self, List.getElem?_cons_zero]
  · exact mt (stopsAt_append hindex).1 (hfront index)

/-- A failure of the consumer is logged by one event, as an error, whatever has been counted. -/
theorem Plan.reports_of_isFatal (plan : Plan) {delivery : Delivery}
    (h : delivery.isFatal = true) :
    ∃ event, event.level = .error ∧ ∀ counters, plan.reports counters delivery = [event] := by
  cases delivery with
  | message | timeout | partitionEnd => cases h
  | unknownTopic reason => exact ⟨.unknownTopic reason plan.inputTopic, rfl, fun _ => rfl⟩
  | unknownPartition reason => exact ⟨.unknownPartition reason plan.inputTopic, rfl, fun _ => rfl⟩
  | failure reason => exact ⟨.consumerFailed reason, rfl, fun _ => rfl⟩

/-- A failure of the consumer is no message. -/
theorem Delivery.message?_of_isFatal {delivery : Delivery} (h : delivery.isFatal = true) :
    delivery.message? = none := by
  cases delivery with
  | message | timeout | partitionEnd => cases h
  | unknownTopic | unknownPartition | failure => rfl

/-- Steps log the failures that they consume. -/
theorem mem_events_steps {codec : Codec} {verdicts : Verdicts} {state : State}
    {failed : Consumption} {event : Event} (hmem : failed ∈ consumptions)
    (hfatal : failed.delivery.isFatal = true)
    (hevent : ∀ counters, plan.reports counters failed.delivery = [event]) :
    event ∈ (steps codec plan verdicts state consumptions).trace.events := by
  induction consumptions generalizing state with
  | nil => cases hmem
  | cons consumption rest ih =>
    rw [steps, Trace.events_append, List.mem_append]
    rcases List.mem_cons.1 hmem with rfl | hmem
    · left
      rw [step_of_no_message codec plan verdicts state (Delivery.message?_of_isFatal hfatal),
        hevent]
      exact List.mem_singleton_self event
    · exact .inr (ih hmem)

/-- A run logs what its loop logs. -/
theorem mem_events_run {codec : Codec} {verdicts : Verdicts} {state : State} {event : Event}
    (h : event ∈ (loop codec plan verdicts state consumptions).trace.events) :
    event ∈ (run codec plan verdicts state consumptions).trace.events := by
  simp only [run, List.cons_append, Trace.events_logged_cons, Trace.events_append]
  exact List.mem_cons_of_mem _ (List.mem_append_left _ h)

end Pipeline

namespace Lifecycle

/-- Whether the consumer fails in a call of a run, after others that give no cause to stop: every
topic was found, the subscription was accepted, and nobody requested shutdown. -/
structure FailsAfter (settings : Settings) (around : Surroundings)
    (front : List Pipeline.Consumption) (failed : Pipeline.Consumption) : Prop where
  ready : (waited settings around).outcome = .ready
  accepted : around.refusal (subscription settings) = none
  running : ((waited settings around).running && !around.stopInSubscribe) = true
  calls : ∃ rest, around.consumptions = front ++ failed :: rest
  goesOn : ∀ index, ¬ Pipeline.StopsAt (.ofSettings settings) 0 front index
  fatal : failed.delivery.isFatal = true

variable {codec : Codec} {settings : Settings} {around : Surroundings}
  {front : List Pipeline.Consumption} {failed : Pipeline.Consumption}

/-- Leaving the group and flushing do not touch the flag. -/
theorem running_runWithClients :
    (runWithClients codec settings around).running = (drive codec settings around).running := by
  simp only [runWithClients]
  split <;> rfl

/-- Tearing the clients down consumes nothing. -/
theorem deliveries_runWithClients {result : Except RunError Counters}
    (h : (drive codec settings around).ending = .returned result) :
    (runWithClients codec settings around).trace.deliveries =
      (drive codec settings around).trace.deliveries := by
  rw [← Trace.deliveries_calls, calls_runWithClients h, Trace.deliveries_append,
    Trace.deliveries_calls]
  exact List.append_nil _

/-- A run whose wait and subscription succeed goes through its loop. -/
theorem drive_looped (hready : (waited settings around).outcome = .ready)
    (haccepted : around.refusal (subscription settings) = none) :
    drive codec settings around =
      { ending :=
          if (looped codec settings around).state.running then .stalled
          else .returned (.ok (looped codec settings around).state.counters)
        running := (looped codec settings around).state.running
        trace := (waited settings around).trace ++ .subscribed (subscription settings) none ::
          (looped codec settings around).trace } := by
  rw [drive_ready hready]
  simp only [subscribe, haccepted, transcode, looped]
  rfl

/-- What a run consumes is what its loop consumes. -/
theorem deliveries_drive_looped (hready : (waited settings around).outcome = .ready)
    (haccepted : around.refusal (subscription settings) = none) :
    (drive codec settings around).trace.deliveries =
      (looped codec settings around).trace.deliveries := by
  have hwait : (waited settings around).trace.deliveries = [] := Gate.deliveries_waitFrom ..
  rw [drive_looped hready haccepted, Trace.deliveries_append, hwait]
  rfl

/-- A run that returns counters got through its loop, and the loop had a cause to end. -/
theorem stopCause_of_returned {counters : Counters}
    (h : (drive codec settings around).ending = .returned (.ok counters)) :
    Pipeline.StopCause (.ofSettings settings)
      ((waited settings around).running && !around.stopInSubscribe) around.consumptions
      (drive codec settings around).trace.deliveries.length := by
  obtain ⟨hready, haccepted⟩ := (course_of_drive h).returns.1.1 ⟨counters, rfl⟩
  have hreturned : (looped codec settings around).HasReturned := by
    refine (Pipeline.hasReturned_run ..).2 (Bool.eq_false_iff.2 fun hup => ?_)
    have hup : (looped codec settings around).state.running = true := hup
    rw [drive_looped hready haccepted, hup] at h
    cases h
  obtain ⟨calls, hcalls, hle, hdeliveries⟩ :=
    Pipeline.exists_returnsAfter_of_hasReturned hreturned
  have hlength : (drive codec settings around).trace.deliveries.length = calls := by
    rw [deliveries_drive_looped hready haccepted, looped, hdeliveries, List.length_map,
      List.length_take_of_le hle]
  rw [hlength]
  exact hcalls.stopCause

/-- **The first failure of the consumer ends the loop** of a run, and is logged as an error. -/
theorem FailsAfter.looped (codec : Codec) (h : FailsAfter settings around front failed) :
    let looped := Lifecycle.looped codec settings around
    looped.state.running = false ∧
      looped.trace.deliveries = front.map (·.delivery) ++ [failed.delivery] ∧
      ∃ event ∈ looped.trace.events, event.level = .error ∧
        ∀ counters, (Pipeline.Plan.ofSettings settings).reports counters failed.delivery =
          [event] := by
  intro looped
  obtain ⟨rest, hcalls⟩ := h.calls
  have hlooped : looped = Pipeline.run codec (.ofSettings settings) around.verdicts {}
      (front ++ failed :: rest) := by
    simp only [looped, Lifecycle.looped, h.running, hcalls]
  have htake : (front ++ failed :: rest).take (front.length + 1) = front ++ [failed] := by
    rw [List.take_length_add_append, List.take_succ_cons, List.take_zero]
  have hreturns := Pipeline.returnsAfter_of_isFatal h.goesOn h.fatal rest
  rcases Pipeline.loop_returns codec (.ofSettings settings) around.verdicts true
    (front ++ failed :: rest) with ⟨calls, hcalls', -, hsteps, hdown⟩ | ⟨hnever, -⟩
  · obtain rfl := hcalls'.unique hreturns
    rw [htake] at hsteps
    obtain ⟨event, hlevel, hreports⟩ :=
      Pipeline.Plan.reports_of_isFatal (.ofSettings settings) h.fatal
    refine ⟨hlooped ▸ hdown, ?_, event, ?_, hlevel, hreports⟩
    · rw [hlooped, Pipeline.deliveries_run, hsteps, Pipeline.deliveries_steps, List.map_append,
        List.map_singleton]
    · rw [hlooped]
      refine Pipeline.mem_events_run ?_
      rw [hsteps]
      exact Pipeline.mem_events_steps (List.mem_append_right _ (List.mem_singleton_self failed))
        h.fatal hreports
  · exact absurd hreturns (hnever _)

/-- The program exits with 0 when its run returns counters. -/
theorem exit_transcodeWith {environment : Command.Environment} {config : String}
    {counters : Counters} (hvalid : settings.validate = .ok ())
    (hproducer : (Client.create .producer settings).isOk = true)
    (hconsumer : (Client.create .consumer settings).isOk = true)
    (h : (runWithClients (.octetString settings.skipBytes) settings around).ending =
      .returned (.ok counters)) :
    (Command.transcodeWith around environment config settings).exit = some 0 := by
  cases hproduce : Client.create .producer settings with
  | error fault =>
    rw [hproduce] at hproducer
    cases hproducer
  | ok producer =>
    cases hconsume : Client.create .consumer settings with
    | error fault =>
      rw [hconsume] at hconsumer
      cases hconsumer
    | ok consumer =>
      simp only [Command.transcodeWith, hvalid, run, hproduce, hconsume, h]

/-- **A failure of the consumer is not returned.**  When every topic was found and the subscription
was accepted, a failure that follows calls without cause to stop ends the loop: it is logged as an
error, nothing is consumed after it, and the run returns the counters of its loop, so that the
program exits with 0.  Counters are returned for no other reasons than those that end a loop:
shutdown was requested, the last expected end of a partition was seen, or the consumer failed. -/
theorem runWithClients_of_failure (codec : Codec) (settings : Settings) (around : Surroundings) :
    let ran := runWithClients codec settings around
    (∀ front failed, FailsAfter settings around front failed →
        ran.ending = .returned (.ok (looped codec settings around).state.counters) ∧
          ran.running = false ∧
          ran.trace.deliveries = front.map (·.delivery) ++ [failed.delivery] ∧
          (∃ event ∈ ran.trace.events, event.level = .error ∧
            ∀ counters, (Pipeline.Plan.ofSettings settings).reports counters failed.delivery =
              [event]) ∧
          (settings.validate = .ok () → (Client.create .producer settings).isOk = true →
            (Client.create .consumer settings).isOk = true → ∀ environment config,
              (Command.transcodeWith around environment config settings).exit = some 0)) ∧
      ∀ counters, ran.ending = .returned (.ok counters) →
        Pipeline.StopCause (.ofSettings settings)
          ((waited settings around).running && !around.stopInSubscribe) around.consumptions
          ran.trace.deliveries.length := by
  intro ran
  refine ⟨fun front failed hfails => ?_, fun counters hreturned => ?_⟩
  · obtain ⟨hdown, hdeliveries, event, hevent, hlevel, hreports⟩ :=
      hfails.looped codec
    have hdrive : drive codec settings around = _ := drive_looped hfails.ready hfails.accepted
    have hending {codec : Codec} : (drive codec settings around).ending =
        .returned (.ok (looped codec settings around).state.counters) := by
      rw [drive_looped hfails.ready hfails.accepted, (hfails.looped codec).1]
      rfl
    refine ⟨ending_runWithClients.trans hending, ?_, ?_, ⟨event, ?_, hlevel, hreports⟩,
      fun hvalid hproducer hconsumer environment config => ?_⟩
    · rw [running_runWithClients, hdrive]
      exact hdown
    · rw [deliveries_runWithClients hending,
        deliveries_drive_looped hfails.ready hfails.accepted]
      exact hdeliveries
    · rw [trace_runWithClients hending, hdrive]
      simp only [Trace.events_append, List.mem_append]
      exact .inl (.inl (.inl (.inr hevent)))
    · exact exit_transcodeWith hvalid hproducer hconsumer (ending_runWithClients.trans hending)
  · have hdrive : (drive codec settings around).ending = .returned (.ok counters) :=
      ending_runWithClients.symm.trans hreturned
    rw [deliveries_runWithClients hdrive]
    exact stopCause_of_returned hdrive

/-- A topic that is listed by the first answer is waited for with one question. -/
theorem waited_listed {topic : String} {settings : Settings} {around : Surroundings}
    (htopics : settings.consumerTopics = [topic]) (hrunning : around.running = true)
    (hlists : (around.replies 0).lists topic = true) :
    waited settings around =
      { outcome := .ready
        running := !(around.replies 0).stopInQuery
        trace := [.queried, .logged (.topicAvailable topic)] } := by
  rw [waited, Gate.wait, htopics, hrunning, Gate.waitFrom_listed hlists, Gate.waitFrom_nil]
  rfl

/-- A timeout, a failure, and a message that is not read any more. -/
theorem runWithClients_of_failure_after_timeout :
    let settings : Settings := { consumerTopics := ["in"], producerTopic := "out" }
    let failed : Pipeline.Consumption := { delivery := .failure "Local: Fatal error" }
    let around : Surroundings :=
      { replies := fun _ => { answer := .ok ["in"] }
        patience := 0
        consumptions := [{ delivery := .timeout }, failed,
          { delivery := .message { topic := "in", payload := some [0] } }]
        verdicts := fun _ => none }
    FailsAfter settings around [{ delivery := .timeout }] failed ∧
      (runWithClients (.octetString 0) settings around).trace.deliveries =
        [.timeout, .failure "Local: Fatal error"] ∧
      (Command.transcodeWith around [] "acm.properties" settings).exit = some 0 := by
  intro settings failed around
  have hwaited : waited settings around = _ := waited_listed rfl rfl rfl
  have hfails : FailsAfter settings around [{ delivery := .timeout }] failed :=
    { ready := by rw [hwaited]
      accepted := rfl
      running := by rw [hwaited]; rfl
      calls := ⟨_, rfl⟩
      goesOn := fun index => by
        cases index with
        | zero => simp [Pipeline.stopsAt_zero, Delivery.isFatal, Delivery.isEnd]
        | succ index => simp [Pipeline.StopsAt]
      fatal := rfl }
  obtain ⟨hfailure, -⟩ := runWithClients_of_failure (.octetString 0) settings around
  obtain ⟨-, -, hdeliveries, -, hexit⟩ := hfailure _ _ hfails
  have hvalid : settings.validate = .ok () := by
    have hfault : settings.fault? = none := by decide +kernel
    rw [Settings.validate, hfault]
  exact ⟨hfails, hdeliveries, hexit hvalid (by decide +kernel) (by decide +kernel) [] _⟩

/-- An unknown topic, told by the first consume call, is no error of the run. -/
theorem unknown_topic_returns_counters :
    let settings : Settings := { consumerTopics := ["in"], producerTopic := "out" }
    let failed : Pipeline.Consumption :=
      { delivery := .unknownTopic "Broker: Unknown topic or partition" }
    let around : Surroundings :=
      { replies := fun _ => { answer := .ok ["in"] }
        patience := 0
        consumptions := [failed]
        verdicts := fun _ => none }
    FailsAfter settings around [] failed ∧
      (runWithClients (.octetString 0) settings around).ending = .returned (.ok {}) ∧
      ¬ ∃ error, (runWithClients (.octetString 0) settings around).ending =
        .returned (.error error) := by
  intro settings failed around
  have hwaited : waited settings around = _ := waited_listed rfl rfl rfl
  have hready : (waited settings around).outcome = .ready := by rw [hwaited]
  have hrunning : ((waited settings around).running && !around.stopInSubscribe) = true := by
    rw [hwaited]
    rfl
  have hending : (runWithClients (.octetString 0) settings around).ending =
      .returned (.ok {}) := by
    rw [ending_runWithClients, drive_looped hready rfl]
    simp only [looped, hrunning]
    rfl
  have hfails : FailsAfter settings around [] failed :=
    { ready := hready
      accepted := rfl
      running := hrunning
      calls := ⟨_, rfl⟩
      goesOn := fun index => by simp [Pipeline.StopsAt]
      fatal := rfl }
  refine ⟨hfails, hending, ?_⟩
  rintro ⟨error, herror⟩
  rw [hending] at herror
  cases herror

end Lifecycle
end OctetRelay
