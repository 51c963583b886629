/-
# Shutdown before the subscription

A request for shutdown is noticed when a wait next looks at its flag, which it
does before each question.  So it depends on what is missing then whether the
request comes in time:

| shutdown is requested | at the next look | the run |
| --- | --- | --- |
| beforehand, or in a pause | a topic is missing | is cancelled |
| during a question that leaves a topic missing | a topic is missing | is cancelled |
| during the question that finds the last topic | there is no next look | subscribes, and consumes nothing |

A wait gets from look to look while the flag is up and a topic is missing
(`course_of_pauses_le`).  What a run does is then read off the first look that
finds the flag down, if a topic is missing there, and off the question that finds
the last topic otherwise (`drive_of_request`).

Source: `wait_for` and `drive`; `SPEC_FULL.md` 4.2, the caller must not
subscribe.
-/

import OctetRelay.Proofs.Ending
import OctetRelay.Proofs.Isolation
import OctetRelay.Proofs.Turns

namespace OctetRelay

/-- Whether a trace has a subscription in it, refused or not. -/
def Trace.Subscribes (trace : Trace) : Prop :=
  ∃ request refusal, Effect.subscribed request refusal ∈ trace

namespace Gate

/-- A moment at which shutdown may be requested. -/
inductive Moment where
  /-- Before the wait. -/
  | beforehand
  /-- While a question is under way. -/
  | inQuery (query : Nat)
  /-- In the pause behind a question. -/
  | inPause (query : Nat)

/-- The number of the question before which a wait looks at its flag next. -/
def Moment.nextLook : Moment → Nat
  | .beforehand => 0
  | .inQuery query | .inPause query => query + 1

variable (replies : Nat → Reply) (running : Bool) (topics : List String)

/-- Whether shutdown is requested at a moment: beforehand, during a question for a missing topic, or
in the pause that follows a question which does not find it. -/
def RequestedAt : Moment → Prop
  | .beforehand => running = false
  | .inQuery query =>
    (look replies running topics query).missing ≠ [] ∧ (replies query).stopInQuery = true
  | .inPause query => ∃ topic rest,
    (look replies running topics query).missing = topic :: rest ∧
      (replies query).lists topic = false ∧ (replies query).stopInPause = true

variable {replies running topics}

/-- A request during a question takes the flag down behind it, whatever the question finds. -/
theorem up_of_stopInQuery {query : Nat}
    (hmissing : (look replies running topics query).missing ≠ [])
    (hstop : (replies query).stopInQuery = true) :
    (look replies running topics (query + 1)).up = false := by
  obtain ⟨topic, rest, htopics⟩ := List.exists_cons_of_ne_nil hmissing
  rw [look]
  cases hlists : (replies query).lists topic with
  | true => rw [Look.next_listed htopics hlists, hstop, Bool.not_true, Bool.and_false]
  | false =>
    rw [Look.next_missed htopics hlists, hstop, Bool.not_true, Bool.false_and, Bool.and_false]

/-- **A request is noticed at the next look**, if a topic is still missing then. -/
theorem up_eq_false_of_requestedAt {moment : Moment} (h : RequestedAt replies running topics moment)
    (hmissing : (look replies running topics moment.nextLook).missing ≠ []) :
    (look replies running topics moment.nextLook).up = false := by
  cases moment with
  | beforehand => exact h
  | inQuery query => exact up_of_stopInQuery h.1 h.2
  | inPause query =>
    obtain ⟨topic, rest, htopics, hlists, hstop⟩ := h
    rw [Moment.nextLook, look, Look.next_missed htopics hlists, hstop, Bool.not_true,
      Bool.and_false, Bool.and_false]

/-- A flag that is found down was found down for the first time. -/
theorem exists_first_down {query : Nat} (h : (look replies running topics query).up = false) :
    ∃ check, check ≤ query ∧ (look replies running topics check).up = false ∧
      ∀ earlier, earlier < check → (look replies running topics earlier).up = true := by
  have hexists : ∃ check, (look replies running topics check).up = false := ⟨query, h⟩
  refine ⟨Nat.find hexists, Nat.find_min' hexists h, Nat.find_spec hexists, ?_⟩
  intro earlier hearlier
  exact eq_true_of_ne_false (Nat.find_min hexists hearlier)

/-- **A flag found down while topics are missing cancels a wait**, with what was missing when it was
found down first. -/
theorem exists_cancelled {query : Nat} (hdown : (look replies running topics query).up = false)
    (hmissing : (look replies running topics query).missing ≠ []) :
    ∃ check, check ≤ query ∧ (look replies running topics check).up = false ∧
      (∀ earlier, earlier < check → (look replies running topics earlier).up = true) ∧
      (look replies running topics check).missing ≠ [] ∧
      ∃ least, ∀ patience, least ≤ patience → (wait replies patience running topics).outcome =
        .cancelled (look replies running topics check).missing := by
  obtain ⟨check, hle, hcheck, hup⟩ := exists_first_down hdown
  have hpending := missing_ne_nil_of_le hle hmissing
  have hasks (earlier : Nat) (hlt : earlier < check) : Asks replies running topics earlier :=
    ⟨hup earlier hlt, missing_ne_nil_of_le (Nat.le_of_lt hlt) hpending⟩
  have hstops : ¬ Asks replies running topics check := fun h =>
    Bool.false_ne_true (hcheck.symm.trans h.1)
  refine ⟨check, hle, hcheck, hup, hpending, (turns replies running topics 0 check).pauses,
    fun patience hpatience => ?_⟩
  have hcourse := course_of_pauses_le hasks hstops hpatience
  rw [hcourse.outcome, Nat.zero_add, Look.outcome_of_ne_nil hpending]

/-- **A question that finds the last topic ends a wait well** if the flag was up before it; the flag
that the wait ends with says whether shutdown was requested during that question. -/
theorem exists_ready {last : Nat} (hup : (look replies running topics last).up = true)
    (hmissing : (look replies running topics last).missing ≠ [])
    (hfound : (look replies running topics (last + 1)).missing = []) :
    ∃ least, ∀ patience, least ≤ patience →
      (wait replies patience running topics).outcome = .ready ∧
        (wait replies patience running topics).running =
          (look replies running topics (last + 1)).up := by
  have hasks (earlier : Nat) (hlt : earlier < last + 1) : Asks replies running topics earlier :=
    ⟨(look_le (Nat.le_of_lt_succ hlt)).1 hup,
      missing_ne_nil_of_le (Nat.le_of_lt_succ hlt) hmissing⟩
  have hstops : ¬ Asks replies running topics (last + 1) := fun h => h.2 hfound
  refine ⟨(turns replies running topics 0 (last + 1)).pauses, fun patience hpatience => ?_⟩
  have hcourse := course_of_pauses_le hasks hstops hpatience
  rw [hcourse.outcome, hcourse.flag, Nat.zero_add, Look.outcome_of_nil hfound]
  exact ⟨rfl, rfl⟩

/-- A wait that ends well with some patience does so with all that is enough. -/
theorem eq_ready_of_settled {patience least : Nat} {outcome : Outcome}
    (hready : (wait replies patience running topics).outcome = .ready)
    (hsettled : ∀ patience, least ≤ patience →
      (wait replies patience running topics).outcome = outcome) : outcome = .ready := by
  have hwaits : Waits replies 0 running topics .ready := by
    rw [← hready]
    refine waits_of_outcome fun pending hpending => ?_
    have hexhausted : (wait replies patience running topics).outcome = .exhausted pending := hpending
    rw [hready] at hexhausted
    cases hexhausted
  obtain ⟨enough, henough⟩ := hwaits.settles
  rw [← hsettled (max least enough) (le_max_left least enough)]
  exact henough _ (le_max_right least enough)

end Gate

namespace Lifecycle

variable {codec : Codec} {settings : Settings} {around : Surroundings}

/-- A run whose wait does not find all does nothing but wait. -/
theorem trace_drive_of_ne_ready (h : (waited settings around).outcome ≠ .ready) :
    (drive codec settings around).trace = (waited settings around).trace := by
  cases houtcome : (waited settings around).outcome with
  | ready => exact absurd houtcome h
  | cancelled pending => rw [drive_cancelled houtcome]
  | exhausted pending =>
    unfold waited at houtcome ⊢
    simp only [drive, houtcome]

/-- **A run subscribes just when its wait has found all.** -/
theorem subscribes_drive_iff :
    (drive codec settings around).trace.Subscribes ↔ (waited settings around).outcome = .ready := by
  constructor
  · rintro ⟨request, refusal, hmem⟩
    by_contra hne
    rw [trace_drive_of_ne_ready hne] at hmem
    have hwait := Gate.isOfWait_of_mem_waitFrom hmem
    cases hwait
  · intro hready
    rw [drive_ready hready]
    cases hrefusal : around.refusal (subscription settings) with
    | some error =>
      refine ⟨subscription settings, some error, List.mem_append_right _ ?_⟩
      simp only [subscribe, hrefusal, List.mem_singleton]
    | none =>
      refine ⟨subscription settings, none, List.mem_append_right _ ?_⟩
      simp only [subscribe, hrefusal, List.mem_cons_self]

/-- A loop that starts with the flag down consumes nothing and counts nothing. -/
theorem looped_of_down (codec : Codec) (h : (waited settings around).running = false) :
    (looped codec settings around).state = { running := false } ∧
      (looped codec settings around).trace.deliveries = [] := by
  have hloop : Pipeline.loop codec (.ofSettings settings) around.verdicts { running := false }
      around.consumptions = { state := { running := false }, trace := [] } :=
    Pipeline.loop_of_not_running rfl around.consumptions
  simp only [looped, h, Bool.false_and]
  constructor
  · simp only [Pipeline.run, hloop]
  · rw [Pipeline.deliveries_run, hloop]
    rfl

/-- **A run that subscribes with the flag down consumes nothing**, and returns empty counters if its
subscription is accepted. -/
theorem drive_of_down (hready : (waited settings around).outcome = .ready)
    (hdown : (waited settings around).running = false) :
    (drive codec settings around).trace.deliveries = [] ∧
      (around.refusal (subscription settings) = none →
        (drive codec settings around).ending = .returned (.ok {})) := by
  obtain ⟨hstate, hdeliveries⟩ := looped_of_down codec hdown
  cases hrefusal : around.refusal (subscription settings) with
  | some error =>
    have hwait : (waited settings around).trace.deliveries = [] := Gate.deliveries_waitFrom ..
    refine ⟨?_, fun h => nomatch h⟩
    rw [drive_ready hready, Trace.deliveries_append, hwait]
    simp only [subscribe, hrefusal]
    rfl
  | none =>
    refine ⟨?_, fun _ => ?_⟩
    · rw [deliveries_drive_looped hready hrefusal]
      exact hdeliveries
    · rw [drive_looped hready hrefusal, hstate]
      rfl

/-- **Shutdown before the subscription.**

A request for shutdown comes in time if a topic is still missing at the look that follows it:
whether it comes beforehand, during a question or in a pause, the run is then cancelled with the
topics that are missing when the flag is first found down, and never subscribes, not even if its
patience runs out before.

That leaves the question that finds the last topic.  If the flag is up before it, the run
subscribes, whether or not shutdown is requested while the question is under way.  If it is, nothing
is consumed, and a run whose subscription is accepted returns empty counters. -/
theorem drive_of_request (codec : Codec) (settings : Settings) (around : Surroundings) :
    let look := Gate.look around.replies around.running settings.consumerTopics
    let ran (patience : Nat) := drive codec settings { around with patience }
    (∀ moment, Gate.RequestedAt around.replies around.running settings.consumerTopics moment →
      (look moment.nextLook).missing ≠ [] →
        (∃ check, check ≤ moment.nextLook ∧ (look check).up = false ∧
          (∀ earlier, earlier < check → (look earlier).up = true) ∧ (look check).missing ≠ [] ∧
          ∃ least, ∀ patience, least ≤ patience → (ran patience).ending =
            .returned (.error (.cancelled (look check).missing))) ∧
        ∀ patience, ¬ (ran patience).trace.Subscribes) ∧
      ∀ last, (look last).up = true → (look last).missing ≠ [] → (look (last + 1)).missing = [] →
        ∃ least, ∀ patience, least ≤ patience → (ran patience).trace.Subscribes ∧
          ((around.replies last).stopInQuery = true → (ran patience).trace.deliveries = [] ∧
            (around.refusal (subscription settings) = none →
              (ran patience).ending = .returned (.ok {}))) := by
  intro look ran
  constructor
  · intro moment hrequested hmissing
    obtain ⟨check, hle, hcheck, hup, hpending, least, hcancelled⟩ :=
      Gate.exists_cancelled (Gate.up_eq_false_of_requestedAt hrequested hmissing) hmissing
    refine ⟨⟨check, hle, hcheck, hup, hpending, least, ?_⟩, ?_⟩
    · intro patience hpatience
      have houtcome : (waited settings { around with patience }).outcome =
          .cancelled (look check).missing := hcancelled patience hpatience
      simp only [ran, drive_cancelled houtcome]
    · intro patience hsubscribes
      have hready := subscribes_drive_iff.1 hsubscribes
      have hsettled := Gate.eq_ready_of_settled hready hcancelled
      cases hsettled
  · intro last hup hmissing hfound
    obtain ⟨least, hready⟩ := Gate.exists_ready hup hmissing hfound
    refine ⟨least, fun patience hpatience => ?_⟩
    obtain ⟨houtcome, hrunning⟩ := hready patience hpatience
    refine ⟨subscribes_drive_iff.2 houtcome, fun hstop => ?_⟩
    have hready' : (waited settings { around with patience }).outcome = .ready := houtcome
    have hdown : (waited settings { around with patience }).running = false :=
      hrunning.trans (Gate.up_of_stopInQuery hmissing hstop)
    exact drive_of_down hready' hdown

/-- Shutdown is requested in the pause behind an answer that is an error, while the second topic is
missing; and, when only the first one is asked for, during the question that finds it. -/
theorem drive_of_request_in_pause :
    let replies : Nat → Gate.Reply
      | 0 => { answer := .ok ["a", "b"] }
      | 1 => { answer := .error "down", stopInPause := true }
      | _ => { answer := .ok ["b"] }
    let both : Settings := { consumerTopics := ["a", "b"], producerTopic := "out" }
    let one : Settings := { consumerTopics := ["a"], producerTopic := "out" }
    let around : Surroundings :=
      { replies, patience := 0, consumptions := [], verdicts := fun _ => none }
    let late : Surroundings := { around with replies := fun query =>
      { replies query with stopInQuery := true } }
    Gate.RequestedAt replies true ["a", "b"] (.inPause 1) ∧
      (∃ least, ∀ patience, least ≤ patience →
        (drive (.octetString 0) both { around with patience }).ending =
          .returned (.error (.cancelled ["b"]))) ∧
      (∀ patience, ¬ (drive (.octetString 0) both { around with patience }).trace.Subscribes) ∧
      ∃ least, ∀ patience, least ≤ patience →
        (drive (.octetString 0) one { late with patience }).trace.Subscribes ∧
          (drive (.octetString 0) one { late with patience }).ending = .returned (.ok {}) := by
  intro replies both one around late
  have hrequested : Gate.RequestedAt replies true ["a", "b"] (.inPause 1) :=
    ⟨"b", [], rfl, rfl, rfl⟩
  obtain ⟨hrequest, -⟩ := drive_of_request (.octetString 0) both around
  obtain ⟨⟨check, hle, hdown, -, -, hcancelled⟩, hsubscribes⟩ :=
    hrequest (.inPause 1) hrequested (List.cons_ne_nil "b" [])
  obtain ⟨-, hlast⟩ := drive_of_request (.octetString 0) one late
  obtain ⟨least, hlate⟩ := hlast 0 rfl (List.cons_ne_nil "a" []) rfl
  refine ⟨hrequested, ?_, hsubscribes, least, fun patience hpatience => ?_⟩
  · -- the flag is up at the looks before the first two questions
    have hcheck : check = 2 := by
      match check, hle with
      | 0, _ => cases hdown
      | 1, _ => cases hdown
      | 2, _ => rfl
    subst hcheck
    exact hcancelled
  · obtain ⟨hsubscribed, hstopped⟩ := hlate patience hpatience
    exact ⟨hsubscribed, (hstopped rfl).2 rfl⟩

/-- Shutdown requested during the question that finds the only topic does not keep a run from
subscribing. -/
theorem request_in_last_question_subscribes :
    let settings : Settings := { consumerTopics := ["in"], producerTopic := "out" }
    let around : Surroundings :=
      { replies := fun _ => { answer := .ok ["in"], stopInQuery := true }
        patience := 0
        consumptions := []
        verdicts := fun _ => none }
    let ran := drive (.octetString 0) settings around
    Gate.RequestedAt around.replies around.running settings.consumerTopics (.inQuery 0) ∧
      ran.trace.Subscribes ∧ ran.ending = .returned (.ok {}) ∧
      ¬ ∃ pending, ran.ending = .returned (.error (.cancelled pending)) := by
  intro settings around ran
  have hwaited : waited settings around = _ := waited_listed rfl rfl rfl
  have hready : (waited settings around).outcome = .ready := by rw [hwaited]
  have hdown : (waited settings around).running = false := by rw [hwaited]; rfl
  have hending : ran.ending = .returned (.ok {}) := (drive_of_down hready hdown).2 rfl
  refine ⟨⟨List.cons_ne_nil "in" [], rfl⟩, subscribes_drive_iff.2 hready, hending, ?_⟩
  rintro ⟨pending, hpending⟩
  rw [hending] at hpending
  cases hpending

end Lifecycle
end OctetRelay
