/-
# The planned end of a stream

Where ends of partition may stop a run, the last expected one does.  What is
counted are the ends, not the partitions that came to one, and a partition
reports its end anew whenever the consumer reaches it again.

A run that stops on an end has seen as many as are expected
(`length_endedPartitions_of_stopsOnEnd`).  So as many partitions came to their
end only if none reported it twice, and that condition is exact
(`partitionCount_le_card_iff_nodup`).  `repeated_end_stops_run` is a run that
stops, on the second report of one partition, while the other still has a
message to be read.

Source: `handle_eof` and `record_eof`; `SPEC_FULL.md` 7, the planned
termination.
-/

import Mathlib.Data.Finset.Card
import OctetRelay.Proofs.StopPoint

namespace OctetRelay

/-- The partition that a consume call found at its end. -/
def Delivery.endedPartition? : Delivery → Option Int32
  | .partitionEnd partition => some partition
  | .message _ | .timeout | .unknownTopic _ | .unknownPartition _ | .failure _ => none

/-- A consume call brings the end of a partition if it names one. -/
theorem Delivery.isSome_endedPartition? (delivery : Delivery) :
    delivery.endedPartition?.isSome = delivery.isEnd := by
  cases delivery <;> rfl

/-- The partitions that reported their end, once for each report. -/
def Trace.endedPartitions (trace : Trace) : List Int32 :=
  trace.deliveries.filterMap Delivery.endedPartition?

/-- There is a report for each end of partition that was seen. -/
theorem Trace.length_endedPartitions (trace : Trace) :
    trace.endedPartitions.length = trace.deliveries.countP Delivery.isEnd := by
  rw [endedPartitions, List.length_filterMap_eq_countP]
  simp only [Delivery.isSome_endedPartition?]

namespace Pipeline

variable {codec : Codec} {plan : Plan} {verdicts : Verdicts} {consumptions : List Consumption}

/-- Whether a run, not asked to stop beforehand, stops on an end of partition and for no other
reason. -/
structure StopsOnEnd (codec : Codec) (plan : Plan) (verdicts : Verdicts)
    (consumptions : List Consumption) : Prop where
  /-- The run returns. -/
  returned : (run codec plan verdicts {} consumptions).HasReturned
  /-- Nobody requests shutdown during a call that the run makes. -/
  unrequested : ∀ consumption ∈ consumptions.take
      (run codec plan verdicts {} consumptions).trace.deliveries.length,
    consumption.stopRequested = false
  /-- The last call brings the end of a partition. -/
  last : ∃ partition, (run codec plan verdicts {} consumptions).trace.deliveries.getLast? =
    some (.partitionEnd partition)

/-- A run that returns has made the calls after which it should. -/
theorem exists_returnsAfter_of_hasReturned {running : Bool}
    (h : (run codec plan verdicts { running } consumptions).HasReturned) :
    ∃ calls, ReturnsAfter plan running consumptions calls ∧ calls ≤ consumptions.length ∧
      (run codec plan verdicts { running } consumptions).trace.deliveries =
        (consumptions.take calls).map (·.delivery) := by
  rw [hasReturned_run] at h
  rcases loop_returns codec plan verdicts running consumptions with
    ⟨calls, hcalls, hle, hsteps, -⟩ | ⟨-, -, hup⟩
  · refine ⟨calls, hcalls, hle, ?_⟩
    rw [deliveries_run, hsteps, deliveries_steps]
  · rw [hup] at h
    cases h

/-- **A run that stops on an end has seen as many as are expected.** -/
theorem length_endedPartitions_of_stopsOnEnd (h : StopsOnEnd codec plan verdicts consumptions) :
    (run codec plan verdicts {} consumptions).trace.endedPartitions.length =
      plan.expectedEnds := by
  obtain ⟨calls, hcalls, hle, hdeliveries⟩ := exists_returnsAfter_of_hasReturned h.returned
  obtain ⟨last, rfl, ⟨consumption, hget, hcause⟩, -⟩ := hcalls
  have hlength : (run codec plan verdicts {} consumptions).trace.deliveries.length = last + 1 := by
    rw [hdeliveries, List.length_map, List.length_take_of_le hle]
  have hmem : consumption ∈ consumptions.take (last + 1) := by
    rw [List.mem_take_iff_getElem]
    obtain ⟨hlast, hconsumption⟩ := List.getElem?_eq_some_iff.1 hget
    exact ⟨last, by omega, hconsumption⟩
  have hrequest : consumption.stopRequested = false :=
    h.unrequested consumption (hlength ▸ hmem)
  have hend : ∃ partition, consumption.delivery = .partitionEnd partition := by
    obtain ⟨partition, hpartition⟩ := h.last
    refine ⟨partition, ?_⟩
    rw [List.getLast?_eq_getElem?, hlength, hdeliveries, Nat.add_sub_cancel, List.getElem?_map,
      List.getElem?_take_of_lt (Nat.lt_succ_self last), hget] at hpartition
    exact Option.some.inj hpartition
  obtain ⟨partition, hpartition⟩ := hend
  rcases hcause with hasked | hfatal | ⟨-, -, hcount⟩
  · exact absurd hasked (by rw [hrequest]; exact Bool.false_ne_true)
  · exact absurd hfatal (by rw [hpartition]; exact Bool.false_ne_true)
  · rw [Trace.length_endedPartitions, hdeliveries, List.countP_map, ← hcount, Nat.zero_add]
    rfl

/-- **As many partitions came to their end as are expected just if none reported it twice**, when a
run stops on an end.  The run has then seen as many reports as are expected, one at least. -/
theorem partitionCount_le_card_iff_nodup (h : StopsOnEnd codec plan verdicts consumptions) :
    let reports := (run codec plan verdicts {} consumptions).trace.endedPartitions
    reports.length = max plan.partitionCount.toNat 1 ∧
      (plan.partitionCount.toNat ≤ reports.toFinset.card ↔ reports.Nodup) := by
  intro reports
  have hlength : reports.length = max plan.partitionCount.toNat 1 :=
    length_endedPartitions_of_stopsOnEnd h
  refine ⟨hlength, fun hcard => ?_, fun hnodup => ?_⟩
  · have hpos : 0 < reports.toFinset.card := by
      obtain ⟨partition, hmem⟩ := List.exists_mem_of_length_pos (l := reports) (by omega)
      exact Finset.card_pos.2 ⟨partition, List.mem_toFinset.2 hmem⟩
    have hdedup : reports.dedup = reports := by
      refine (List.dedup_sublist reports).eq_of_length_le ?_
      rw [← List.card_toFinset]
      omega
    exact List.dedup_eq_self.1 hdedup
  · rw [List.toFinset_card_of_nodup hnodup, hlength]
    exact Nat.le_max_left ..

/-- Two partitions, each of them at its end once, with a message in between. -/
theorem partitionCount_le_card_two :
    let plan : Plan :=
      { inputTopic := "in", outputTopic := "out", partition := none, consumeTimeoutMs := 500,
        exitOnEof := true, partitionCount := 2 }
    let consumptions : List Consumption :=
      [{ delivery := .partitionEnd 1 },
        { delivery := .message { topic := "in", payload := none } },
        { delivery := .partitionEnd 0 }, { delivery := .timeout }]
    let ran := run (.octetString 0) plan (fun _ => none) {} consumptions
    StopsOnEnd (.octetString 0) plan (fun _ => none) consumptions ∧
      plan.partitionCount.toNat ≤ ran.trace.endedPartitions.toFinset.card := by
  intro plan consumptions ran
  have hstops : StopsOnEnd (.octetString 0) plan (fun _ => none) consumptions :=
    { returned := (hasReturned_run ..).2 rfl
      unrequested := by decide
      last := ⟨0, rfl⟩ }
  exact ⟨hstops, (partitionCount_le_card_iff_nodup hstops).2.2 (by decide)⟩

/-- One partition of two reports its end twice, and the run stops: the message of the other one is
not read, and nobody saw that one at its end. -/
theorem repeated_end_stops_run :
    let plan : Plan :=
      { inputTopic := "in", outputTopic := "out", partition := none, consumeTimeoutMs := 500,
        exitOnEof := true, partitionCount := 2 }
    let consumptions : List Consumption :=
      [{ delivery := .partitionEnd 0 }, { delivery := .partitionEnd 0 },
        { delivery := .message { topic := "in", partition := 1, payload := some [1, 0xFF] } },
        { delivery := .partitionEnd 1 }]
    let ran := run (.octetString 0) plan (fun _ => none) {} consumptions
    StopsOnEnd (.octetString 0) plan (fun _ => none) consumptions ∧
      ran.trace.deliveries = [.partitionEnd 0, .partitionEnd 0] ∧
      ran.trace.endedPartitions.toFinset.card < plan.partitionCount.toNat := by
  intro plan consumptions ran
  refine ⟨?_, rfl, by decide⟩
  exact
    { returned := (hasReturned_run ..).2 rfl
      unrequested := by decide
      last := ⟨0, rfl⟩ }

end Pipeline
end OctetRelay
