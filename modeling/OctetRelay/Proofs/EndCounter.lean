/-
# The counter of partition ends

The loop counts ends of partition in 32 bits and looks at the counter only after
it went up.  What keeps it from wrapping is the shutdown flag: a count that is no
longer below the number of partitions takes the flag down, and with the flag down
no further delivery is consumed.

| partitions expected | counter before a call | counter after the run |
| --- | --- | --- |
| 0 | 0 | at most 1 |
| `n`, not 0 | below `n` | at most `n` |

The invariant of the loop is `Plan.HasRoom`, that one more end can be counted.  It
holds whenever a call is made (`loop_hasRoom`), so a run counts all the ends that
it sees (`toNat_ends_loop`).

Source: `handle_eof` and `record_eof`; `SPEC_FULL.md` 4.4, the ends of
partition.
-/

import OctetRelay.Proofs.StopPoint

namespace OctetRelay
namespace Pipeline

/-- Whether one more end of partition can be counted: none was counted yet, or fewer than there are
partitions. -/
def Plan.HasRoom (plan : Plan) (counters : Counters) : Prop :=
  counters.ends = 0 ∨ counters.ends < plan.partitionCount

namespace Plan.HasRoom

variable {plan : Plan} {counters : Counters}

/-- There is room for one more end just if fewer were counted than are expected. -/
theorem iff_lt_expectedEnds :
    plan.HasRoom counters ↔ counters.ends.toNat < plan.expectedEnds := by
  have hzero : counters.ends = 0 ↔ counters.ends.toNat = 0 := UInt32.toNat_inj.symm
  rw [Plan.HasRoom, hzero, UInt32.lt_iff_toNat_lt, Plan.expectedEnds]
  omega

/-- Where there is room, counting one more end does not wrap. -/
theorem toNat_recordEnd (h : plan.HasRoom counters) :
    counters.recordEnd.ends.toNat = counters.ends.toNat + 1 := by
  have hlt : counters.ends.toNat < plan.expectedEnds := iff_lt_expectedEnds.1 h
  have hcount : plan.partitionCount.toNat < 2 ^ 32 := plan.partitionCount.toNat_lt
  have hfits : counters.ends.toNat + 1 < 2 ^ 32 := by
    rw [Plan.expectedEnds] at hlt
    omega
  rw [Counters.recordEnd, UInt32.toNat_add]
  exact Nat.mod_eq_of_lt hfits

end Plan.HasRoom

variable (codec : Codec) {plan : Plan} (verdicts : Verdicts) {state : State}

/-- Where there is room, a step adds to the counter just the end of partition that it consumes. -/
theorem toNat_ends_step (h : plan.HasRoom state.counters) (consumption : Consumption) :
    (step codec plan verdicts state consumption).state.counters.ends.toNat =
      state.counters.ends.toNat +
        if plan.exitOnEof then consumption.delivery.isEnd.toNat else 0 := by
  have hroom : (state.counters.ends + 1).toNat = state.counters.ends.toNat + 1 :=
    h.toNat_recordEnd
  rw [ends_step]
  cases plan.exitOnEof with
  | false => rfl
  | true =>
    cases consumption.delivery.isEnd with
    | false => rfl
    | true => exact hroom

/-- **A step that leaves the flag up leaves room** for one more end. -/
theorem hasRoom_step (h : plan.HasRoom state.counters) {consumption : Consumption}
    (hup : (step codec plan verdicts state consumption).state.running = true) :
    plan.HasRoom (step codec plan verdicts state consumption).state.counters := by
  rw [running_step, Bool.and_eq_true, Bool.not_eq_true'] at hup
  obtain ⟨-, hhalts⟩ := hup
  rw [Plan.halts, Bool.or_eq_false_iff] at hhalts
  obtain ⟨-, hends⟩ := hhalts
  rw [Plan.HasRoom, ends_step]
  cases hcounts : plan.exitOnEof && consumption.delivery.isEnd with
  | false => exact h
  | true =>
    -- the count is compared after it went up
    rw [hcounts, Bool.true_and, decide_eq_false_iff_not, UInt32.not_le] at hends
    exact .inr hends

/-- **Whenever the loop makes a call there is room**: the flag is up, and one more end can be
counted. -/
theorem loop_hasRoom (h : state.running = true → plan.HasRoom state.counters)
    (consumptions : List Consumption) {call : Nat}
    (hcall : call < (loop codec plan verdicts state consumptions).trace.deliveries.length) :
    let before := (steps codec plan verdicts state (consumptions.take call)).state
    before.running = true ∧ plan.HasRoom before.counters := by
  induction consumptions generalizing state call with
  | nil => exact absurd hcall (Nat.not_lt_zero _)
  | cons consumption rest ih =>
    rw [loop] at hcall
    split at hcall
    · rename_i hup
      cases call with
      | zero => exact ⟨hup, h hup⟩
      | succ call =>
        simp only [Trace.deliveries_append, deliveries_step, List.length_append,
          List.length_singleton] at hcall
        exact ih (hasRoom_step codec verdicts (h hup)) (by omega)
    · exact absurd hcall (Nat.not_lt_zero _)

/-- **The loop counts all the ends that it sees**, where they are counted, and no more than are
expected. -/
theorem toNat_ends_loop (h : state.running = true → plan.HasRoom state.counters)
    (hle : state.counters.ends.toNat ≤ plan.expectedEnds) (consumptions : List Consumption) :
    let looped := loop codec plan verdicts state consumptions
    looped.state.counters.ends.toNat ≤ plan.expectedEnds ∧
      looped.state.counters.ends.toNat = state.counters.ends.toNat +
        if plan.exitOnEof then looped.trace.deliveries.countP Delivery.isEnd else 0 := by
  induction consumptions generalizing state with
  | nil => exact ⟨hle, by cases plan.exitOnEof <;> rfl⟩
  | cons consumption rest ih =>
    simp only [loop]
    split
    · rename_i hup
      have hstep := toNat_ends_step codec verdicts (h hup) consumption
      have hroom : state.counters.ends.toNat < plan.expectedEnds :=
        Plan.HasRoom.iff_lt_expectedEnds.1 (h hup)
      have hone : consumption.delivery.isEnd.toNat ≤ 1 := Bool.toNat_le _
      obtain ⟨hbound, hcount⟩ := ih (hasRoom_step codec verdicts (h hup)) (by
        rw [hstep]
        split <;> omega)
      refine ⟨hbound, ?_⟩
      -- The step counts its own end, and the rest of the loop those behind it.
      rw [hcount, hstep, Trace.deliveries_append, deliveries_step, List.countP_append,
        List.countP_singleton]
      cases plan.exitOnEof with
      | false => rfl
      | true =>
        cases consumption.delivery.isEnd with
        | false => simp
        | true =>
          simp only [Bool.toNat_true, if_true]
          omega
    · exact ⟨hle, by cases plan.exitOnEof <;> rfl⟩

/-- The loop takes a step for each delivery that it consumes. -/
theorem loop_eq_steps (plan : Plan) (state : State) (consumptions : List Consumption) :
    let looped := loop codec plan verdicts state consumptions
    looped = steps codec plan verdicts state
      (consumptions.take looped.trace.deliveries.length) := by
  intro looped
  obtain ⟨calls, hcalls⟩ := loop_eq_steps_take codec plan verdicts state consumptions
  have hlength : looped.trace.deliveries.length = min calls consumptions.length := by
    simp only [looped, hcalls, deliveries_steps, List.length_map, List.length_take]
  rw [hlength, ← List.take_eq_take_min]
  exact hcalls

/-- **The counter of ends never wraps in a run.**

Whenever a run makes a consume call, the shutdown flag is up and the counter is zero or below the
number of partitions, so that it can go up by one.  At the end of the calls it is at most the number
of partitions, or one where none is expected, and it is the number of ends that the run saw, or zero
where they are not counted. -/
theorem run_endsFit (codec : Codec) (plan : Plan) (verdicts : Verdicts) (running : Bool)
    (consumptions : List Consumption) :
    let ran := run codec plan verdicts { running } consumptions
    let before (call : Nat) := (steps codec plan verdicts { running } (consumptions.take call)).state
    (∀ call < ran.trace.deliveries.length,
      let counters := (before call).counters
      (before call).running = true ∧
        (counters.ends = 0 ∨ counters.ends < plan.partitionCount) ∧
          counters.recordEnd.ends.toNat = counters.ends.toNat + 1) ∧
      ran.state = before ran.trace.deliveries.length ∧
        ran.state.counters.ends.toNat ≤ max plan.partitionCount.toNat 1 ∧
          ran.state.counters.ends.toNat =
            if plan.exitOnEof then ran.trace.deliveries.countP Delivery.isEnd else 0 := by
  intro ran before
  have hroom : ({ running } : State).running = true → plan.HasRoom ({ running } : State).counters :=
    fun _ => .inl rfl
  have hdeliveries := deliveries_run codec plan verdicts { running } consumptions
  refine ⟨fun call hcall => ?_, ?_, ?_⟩
  · rw [hdeliveries] at hcall
    obtain ⟨hup, hcounters⟩ := loop_hasRoom codec verdicts hroom consumptions hcall
    exact ⟨hup, hcounters, hcounters.toNat_recordEnd⟩
  · rw [hdeliveries]
    exact congrArg (·.state) (loop_eq_steps codec verdicts plan { running } consumptions)
  · obtain ⟨hbound, hcount⟩ := toNat_ends_loop codec verdicts hroom (Nat.zero_le _) consumptions
    rw [hdeliveries]
    exact ⟨hbound, hcount.trans (Nat.zero_add _)⟩

/-- Where no partition is expected, the first end stops the run and is the only one counted. -/
example :
    let plan : Plan :=
      { inputTopic := "in", outputTopic := "out", partition := none, consumeTimeoutMs := 500,
        exitOnEof := true, partitionCount := 0 }
    let consumptions : List Consumption :=
      [{ delivery := .timeout }, { delivery := .partitionEnd 0 }, { delivery := .partitionEnd 0 }]
    let ran := run (.octetString 0) plan (fun _ => none) {} consumptions
    ran.state.counters.ends = 1 ∧ ran.trace.deliveries.length = 2 := by
  decide

end Pipeline
end OctetRelay
