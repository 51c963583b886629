/-
# Settings that are read one by one

Twelve settings are read one after the other (`Field.byName`).  Each of them is
read from what stands under its own name (`readUnder`) and stored in its own
place, so none of them has a part in another one:

| statement | what it says |
| --- | --- |
| `Field.stored_store_of_ne` | storing one setting leaves the others alone |
| `Field.ext_stored` | settings are known by what the twelve hold |
| `ofEntries_eq_ok_iff` | the reading gives settings just if it gives each of them |
| `ofEntries_of_others` | where the others are read, one setting decides |

What holds of each setting is proved setting by setting, once
(`Field.forall_mem_byName`).

Source: `PipelineConfig` as it is read; `SPEC_FULL.md` 3, Pipeline Configuration.
-/

import OctetRelay.Proofs.Results
import OctetRelay.Settings.Reading
import Mathlib.Data.List.Nodup

namespace OctetRelay
namespace Settings

open Dictionary (get?)

namespace Field

/-- What holds of the twelve settings holds of all that are read. -/
theorem forall_mem_byName {p : Field → Prop} (brokers : p .brokers) (groupId : p .groupId)
    (consumerTopics : p .consumerTopics) (producerTopic : p .producerTopic)
    (partition : p .partition) (offset : p .offset) (consumerTimeoutMs : p .consumerTimeoutMs)
    (exitOnEof : p .exitOnEof) (partitionCount : p .partitionCount) (debug : p .debug)
    (skipBytes : p .skipBytes) (kafka : p .kafka) : ∀ field ∈ byName, p field := by
  simp only [byName, List.forall_mem_cons]
  exact ⟨brokers, consumerTimeoutMs, consumerTopics, debug, exitOnEof, groupId, kafka, offset,
    partition, partitionCount, producerTopic, skipBytes, List.forall_mem_nil _⟩

/-- No two settings have one name. -/
theorem nodup_names : (byName.map (·.name)).Nodup := by decide

/-- A setting is known by its name. -/
theorem eq_of_name_eq {field other : Field} (hfield : field ∈ byName) (hother : other ∈ byName)
    (h : field.name = other.name) : field = other :=
  List.inj_on_of_nodup_map nodup_names hfield hother h

/-- **Storing a setting leaves the others alone.** -/
theorem stored_store_of_ne : ∀ field ∈ byName, ∀ other ∈ byName, field.name ≠ other.name →
    ∀ settings content, other.stored (field.store settings content) = other.stored settings := by
  apply forall_mem_byName
  all_goals apply forall_mem_byName
  -- Of the pairs twelve have one name, and the others two places in the settings.
  all_goals
    intro hname settings content
    first
    | rfl
    | exact absurd rfl hname

/-- **Settings are known by what each of them holds.** -/
theorem ext_stored {settings others : Settings}
    (h : ∀ field ∈ byName, field.stored settings = field.stored others) : settings = others := by
  simp only [byName, List.forall_mem_cons] at h
  obtain ⟨hbrokers, htimeout, htopics, hdebug, hexit, hgroup, hkafka, hoffset, hpartition, hcount,
    hproducer, hskip, -⟩ := h
  cases settings
  cases others
  rw [Settings.mk.injEq]
  exact ⟨hbrokers, hgroup, htopics, hproducer, hpartition, hoffset, htimeout, hexit, hcount, hdebug,
    hskip, hkafka⟩

/-- Two settings with two names, in two places. -/
structure Apart (field other : Field) : Prop where
  name_ne : field.name ≠ other.name
  right_kept (settings : Settings) (content : field.Content) :
    other.stored (field.store settings content) = other.stored settings
  left_kept (settings : Settings) (content : other.Content) :
    field.stored (other.store settings content) = field.stored settings

/-- Settings are apart in either order. -/
theorem Apart.symm {field other : Field} (h : field.Apart other) : other.Apart field where
  name_ne := h.name_ne.symm
  right_kept := h.left_kept
  left_kept := h.right_kept

/-- The settings that are read are apart from each other. -/
theorem pairwise_apart : byName.Pairwise Apart :=
  (List.pairwise_map.1 nodup_names).imp_of_mem fun hfield hother hname =>
    { name_ne := hname
      right_kept := stored_store_of_ne _ hfield _ hother hname
      left_kept := stored_store_of_ne _ hother _ hfield hname.symm }

end Field

/-- What is read under a setting's name; a default where nothing stands there. -/
def readUnder (entries : List (String × Value)) (field : Field) (default : field.Content) :
    Except Misfit field.Content :=
  match get? field.name entries with
  | none => .ok default
  | some value => (field.read value).mapError (·.under field.name)

section Under

variable {entries : List (String × Value)} (field : Field)

/-- Where nothing stands under the name the default is read. -/
theorem readUnder_of_none (h : get? field.name entries = none) (default : field.Content) :
    readUnder entries field default = .ok default := by
  unfold readUnder
  rw [h]

/-- A value under the name is read, and a misfit of it comes with the name. -/
theorem readUnder_of_some {value : Value} (h : get? field.name entries = some value)
    (default : field.Content) :
    readUnder entries field default = (field.read value).mapError (·.under field.name) := by
  unfold readUnder
  rw [h]

/-- Reading one setting stores what is read under its name. -/
theorem readField_eq (settings : Settings) :
    readField entries settings field =
      (readUnder entries field (field.stored settings)).map (field.store settings) := by
  cases hget : get? field.name entries with
  | none =>
    rw [readField, hget, readUnder_of_none field hget, Except.map, field.store_stored]
  | some value =>
    simp only [readField, hget, readUnder_of_some field hget, Field.put]
    cases field.read value <;> rfl

end Under

variable {entries : List (String × Value)} {fields : List Field} {before after : Settings}

/-- **What is read one after the other is read under each name**, and settings that are apart from
all of them are left alone. -/
theorem stored_of_foldlM (hapart : fields.Pairwise Field.Apart)
    (h : fields.foldlM (readField entries) before = .ok after) :
    (∀ field ∈ fields, readUnder entries field (field.stored before) = .ok (field.stored after)) ∧
      ∀ other, (∀ field ∈ fields, field.Apart other) → other.stored after = other.stored before := by
  induction fields generalizing before with
  | nil =>
    obtain rfl : before = after := Except.ok.inj h
    exact ⟨List.forall_mem_nil _, fun _ _ => rfl⟩
  | cons field rest ih =>
    obtain ⟨hfirst, hrest⟩ := List.pairwise_cons.1 hapart
    rw [List.foldlM_cons] at h
    obtain ⟨next, hnext, hafter⟩ := ok_of_bind h
    rw [readField_eq] at hnext
    obtain ⟨content, hread, rfl⟩ := ok_of_map hnext
    obtain ⟨hstored, hkept⟩ := ih hrest hafter
    refine ⟨List.forall_mem_cons.2 ⟨?_, fun other hother => ?_⟩, fun other hother => ?_⟩
    · -- What is stored first is still there at the end.
      rw [hkept field fun other hother => (hfirst other hother).symm, field.stored_store, hread]
    · rw [← (hfirst other hother).right_kept before content]
      exact hstored other hother
    · obtain ⟨hthis, hothers⟩ := List.forall_mem_cons.1 hother
      rw [hkept other hothers, hthis.right_kept]

/-- **Where each setting is read, so are all of them.** -/
theorem exists_foldlM (hapart : fields.Pairwise Field.Apart)
    (h : ∀ field ∈ fields, ∃ content,
      readUnder entries field (field.stored before) = .ok content) :
    ∃ after, fields.foldlM (readField entries) before = .ok after := by
  induction fields generalizing before with
  | nil => exact ⟨before, rfl⟩
  | cons field rest ih =>
    obtain ⟨hfirst, hrest⟩ := List.pairwise_cons.1 hapart
    obtain ⟨⟨content, hread⟩, hothers⟩ := List.forall_mem_cons.1 h
    rw [List.foldlM_cons, readField_eq, hread]
    refine ih hrest fun other hother => ?_
    rw [(hfirst other hother).right_kept]
    exact hothers other hother

/-- **One setting that cannot be read ends the reading** where the others can. -/
theorem foldlM_eq_error (hapart : fields.Pairwise Field.Apart) {field : Field}
    (hfield : field ∈ fields) {misfit : Misfit}
    (hmisfit : readUnder entries field (field.stored before) = .error misfit)
    (hothers : ∀ other ∈ fields, other.name ≠ field.name →
      ∃ content, readUnder entries other (other.stored before) = .ok content) :
    fields.foldlM (readField entries) before = .error misfit := by
  induction fields generalizing before with
  | nil => cases hfield
  | cons first rest ih =>
    obtain ⟨hfirst, hrest⟩ := List.pairwise_cons.1 hapart
    rw [List.foldlM_cons, readField_eq]
    rcases List.mem_cons.1 hfield with rfl | hmem
    · rw [hmisfit]
      rfl
    · obtain ⟨content, hread⟩ := hothers first List.mem_cons_self (hfirst field hmem).name_ne
      rw [hread]
      refine ih hrest hmem ?_ fun other hother hname => ?_
      · rw [(hfirst field hmem).right_kept, hmisfit]
      · rw [(hfirst other hother).right_kept]
        exact hothers other (List.mem_cons_of_mem _ hother) hname

/-- **The reading gives settings just if it gives each of them**, from the values under its name and
else by default. -/
theorem ofEntries_eq_ok_iff {settings : Settings} :
    ofEntries entries = .ok settings ↔
      ∀ field ∈ Field.byName,
        readUnder entries field (field.stored {}) = .ok (field.stored settings) := by
  constructor
  · intro h
    exact (stored_of_foldlM Field.pairwise_apart h).1
  · intro h
    obtain ⟨after, hafter⟩ :=
      exists_foldlM Field.pairwise_apart fun field hfield => ⟨_, h field hfield⟩
    have hstored := (stored_of_foldlM Field.pairwise_apart hafter).1
    obtain rfl : after = settings := Field.ext_stored fun field hfield =>
      Except.ok.inj ((hstored field hfield).symm.trans (h field hfield))
    exact hafter

/-- **Where the other settings are read, one setting decides**: its misfit is the result, and else
what is read for it is stored among them. -/
theorem ofEntries_of_others {field : Field} (hfield : field ∈ Field.byName) {settings : Settings}
    (hothers : ∀ other ∈ Field.byName, other.name ≠ field.name →
      readUnder entries other (other.stored {}) = .ok (other.stored settings)) :
    ofEntries entries =
      (readUnder entries field (field.stored {})).map (field.store settings) := by
  cases hread : readUnder entries field (field.stored {}) with
  | error misfit =>
    exact foldlM_eq_error Field.pairwise_apart hfield hread fun other hother hname =>
      ⟨_, hothers other hother hname⟩
  | ok content =>
    refine ofEntries_eq_ok_iff.2 fun other hother => ?_
    by_cases hname : other.name = field.name
    · obtain rfl := Field.eq_of_name_eq hother hfield hname
      rw [other.stored_store, hread]
    · rw [Field.stored_store_of_ne _ hfield _ hother (Ne.symm hname)]
      exact hothers other hother hname

end Settings
end OctetRelay
