/-
# Families of shutdown handles

A handle tells whether its run may go on, and all that handles share is how they
were made.  A history is what was done with them, one action after the other, in a
program that has none at first; handles are numbered as they are made.  Two handles
are of one family if clone steps of the history connect them, in either direction.

| action | handle made | family of it | stopped |
| --- | --- | --- | --- |
| creation | the next number | its own | - |
| clone of an existing handle | the next number | that of the handle | - |
| request on an existing handle | - | - | the family of the handle |
| anything with a missing handle | - | - | - |

The state of the handles knows a family by its first handle and keeps the families
that were stopped.  `Tells` says how that is read off a history.  It holds at first
and is kept by each action (`Tells.apply`), so a handle is stopped just if shutdown
was requested on some handle of its family (`isRunning_eq_false_iff`), be it before
or after the one was cloned from the other.

Source: `ShutdownSignal`; `SPEC_FULL.md` 4.1, Shutdown Signal.
-/

import Mathlib.Data.List.Induction
import Mathlib.Logic.Relation
import Mathlib.Order.Nat
import OctetRelay.Shutdown

namespace OctetRelay
namespace ShutdownHandles

/-- The handles after a history. -/
def ofHistory (history : List ShutdownAction) : ShutdownHandles :=
  history.foldl apply { families := [] }

/-- How many handles there are after one more action. -/
def countMade (count : Nat) : ShutdownAction → Nat
  | .create => count + 1
  | .clone handle => if handle < count then count + 1 else count
  | .request _ => count

/-- How many handles a history makes. -/
def made (history : List ShutdownAction) : Nat := history.foldl countMade 0

/-- An action of a history, at a time when there were so many handles. -/
def TookPlace (history : List ShutdownAction) (action : ShutdownAction) (count : Nat) : Prop :=
  ∃ before after, history = before ++ action :: after ∧ made before = count

/-- A handle was cloned from another one, which was there. -/
def ClonedFrom (history : List ShutdownAction) (copy source : Nat) : Prop :=
  TookPlace history (.clone source) copy ∧ source < copy

/-- Clone steps connect two handles. -/
def SameFamily (history : List ShutdownAction) : Nat → Nat → Prop :=
  Relation.EqvGen (ClonedFrom history)

/-- Shutdown was requested on a handle, which was there. -/
def Requested (history : List ShutdownAction) (handle : Nat) : Prop :=
  ∃ count, TookPlace history (.request handle) count ∧ handle < count

variable {history later : List ShutdownAction} {action last : ShutdownAction}
  {count handle other copy source first : Nat}

/-- The last action of a history counts after those before it. -/
theorem made_concat (history : List ShutdownAction) (action : ShutdownAction) :
    made (history ++ [action]) = countMade (made history) action :=
  List.foldl_append ..

/-- The last action of a history acts on the handles that those before it left. -/
theorem ofHistory_concat (history : List ShutdownAction) (action : ShutdownAction) :
    ofHistory (history ++ [action]) = (ofHistory history).apply action :=
  List.foldl_append ..

/-- No action takes a handle away. -/
theorem le_countMade (count : Nat) (action : ShutdownAction) : count ≤ countMade count action := by
  cases action with
  | create => exact Nat.le_succ count
  | clone handle =>
    rw [countMade]
    split
    · exact Nat.le_succ count
    · exact le_rfl
  | request handle => exact le_rfl

/-- Handles are never lost. -/
theorem made_le_append (history later : List ShutdownAction) :
    made history ≤ made (history ++ later) := by
  induction later using List.reverseRecOn with
  | nil => rw [List.append_nil]
  | append_singleton later action ih =>
    rw [← List.append_assoc, made_concat]
    exact ih.trans (le_countMade _ action)

/-- What took place in a longer history took place before, or at its end. -/
theorem tookPlace_concat : TookPlace (history ++ [last]) action count ↔
    TookPlace history action count ∨ last = action ∧ made history = count := by
  constructor
  · rintro ⟨before, after, hhistory, hcount⟩
    rcases List.eq_nil_or_concat after with rfl | ⟨front, final, rfl⟩
    · obtain ⟨rfl, hlast⟩ := List.append_inj' hhistory rfl
      exact .inr ⟨(List.cons.inj hlast).1, hcount⟩
    · rw [List.concat_eq_append, ← List.cons_append, ← List.append_assoc] at hhistory
      exact .inl ⟨before, front, (List.append_inj' hhistory rfl).1, hcount⟩
  · rintro (⟨before, after, rfl, hcount⟩ | ⟨rfl, hcount⟩)
    · exact ⟨before, after ++ [last], by rw [List.append_assoc, List.cons_append], hcount⟩
    · exact ⟨history, [], rfl, hcount⟩

/-- What took place stays so, whatever comes later. -/
theorem TookPlace.append (h : TookPlace history action count) (later : List ShutdownAction) :
    TookPlace (history ++ later) action count := by
  obtain ⟨before, after, rfl, hcount⟩ := h
  exact ⟨before, after ++ later, by rw [List.append_assoc, List.cons_append], hcount⟩

/-- What takes place takes place among the handles that there will be. -/
theorem TookPlace.countMade_le (h : TookPlace history action count) :
    countMade count action ≤ made history := by
  obtain ⟨before, after, rfl, rfl⟩ := h
  have hle : made (before ++ [action]) ≤ made (before ++ [action] ++ after) :=
    made_le_append _ after
  rwa [made_concat, List.append_assoc] at hle

/-- A copy is among the handles made. -/
theorem ClonedFrom.lt_made (h : ClonedFrom history copy source) : copy < made history := by
  have hle : countMade copy (.clone source) ≤ made history := h.1.countMade_le
  rw [countMade, if_pos h.2] at hle
  exact hle

/-- Only a handle that was made can be asked to stop. -/
theorem Requested.lt_made (h : Requested history handle) : handle < made history := by
  obtain ⟨count, hplace, hlt⟩ := h
  exact hlt.trans_le hplace.countMade_le

/-- A copy was made before the last action or by it. -/
theorem clonedFrom_concat : ClonedFrom (history ++ [last]) copy source ↔
    ClonedFrom history copy source ∨
      last = .clone source ∧ made history = copy ∧ source < copy := by
  rw [ClonedFrom, tookPlace_concat, or_and_right, and_assoc]
  rfl

/-- A handle was asked to stop before the last action or by it. -/
theorem requested_concat : Requested (history ++ [last]) handle ↔
    Requested history handle ∨ last = .request handle ∧ handle < made history := by
  constructor
  · rintro ⟨count, hplace, hlt⟩
    rcases tookPlace_concat.1 hplace with hplace | ⟨hlast, rfl⟩
    · exact .inl ⟨count, hplace, hlt⟩
    · exact .inr ⟨hlast, hlt⟩
  · rintro (⟨count, hplace, hlt⟩ | ⟨rfl, hlt⟩)
    · exact ⟨count, hplace.append _, hlt⟩
    · exact ⟨made history, tookPlace_concat.2 (.inr ⟨rfl, rfl⟩), hlt⟩

/-- Families only grow. -/
theorem SameFamily.append (h : SameFamily history handle other) (later : List ShutdownAction) :
    SameFamily (history ++ later) handle other :=
  Relation.EqvGen.mono (fun _ _ hcloned => ⟨hcloned.1.append later, hcloned.2⟩) _ _ h

/-- A value that every copy has from its source is the same in a whole family. -/
theorem SameFamily.congr {α : Type} {value : Nat → α}
    (hvalue : ∀ copy source, ClonedFrom history copy source → value copy = value source)
    (h : SameFamily history handle other) : value handle = value other :=
  congrArg (Quot.lift value hvalue) (Quot.eqvGen_sound h)

/-- What the state of the handles tells of their history. -/
structure Tells (handles : ShutdownHandles) (history : List ShutdownAction) : Prop where
  /-- All handles are there. -/
  length_families : handles.families.length = made history
  /-- A copy is kept under the family of its source. -/
  family_copy : ∀ copy source, ClonedFrom history copy source →
    handles.families[copy]? = handles.families[source]?
  /-- A family goes by the number of one of its handles. -/
  sameFamily_first : ∀ handle first, handles.families[handle]? = some first →
    SameFamily history first handle
  /-- The stopped families are those on which shutdown was requested. -/
  mem_stopped : ∀ first, first ∈ handles.stopped ↔
    ∃ handle, Requested history handle ∧ handles.families[handle]? = some first

namespace Tells

variable {handles : ShutdownHandles}

/-- No handles tell of no history. -/
theorem nil : Tells { families := [] } [] where
  length_families := rfl
  family_copy _ _ h := absurd h.lt_made (Nat.not_lt_zero _)
  sameFamily_first _ _ h := absurd h (by simp)
  mem_stopped first := by
    refine ⟨fun h => absurd h List.not_mem_nil, ?_⟩
    rintro ⟨handle, hrequested, -⟩
    exact absurd hrequested.lt_made (Nat.not_lt_zero _)

/-- Every handle that was made has its family noted. -/
theorem lt_length (h : handles.Tells history) (hlt : handle < made history) :
    handle < handles.families.length :=
  h.length_families ▸ hlt

/-- One more handle leaves those that are there where they are. -/
theorem getElem?_concat (h : handles.Tells history) (hlt : handle < made history) (first : Nat) :
    (handles.families ++ [first])[handle]? = handles.families[handle]? :=
  List.getElem?_append_left (h.lt_length hlt)

/-- **Making a handle** under a family, be it a new one or that of its source, is told. -/
theorem concat (h : handles.Tells history) (hmade : made (history ++ [action]) = made history + 1)
    (hcloned : ∀ source, action = .clone source → handles.families[source]? = some first)
    (hrequest : ∀ handle, action ≠ .request handle)
    (hfirst : SameFamily (history ++ [action]) first (made history)) :
    Tells { handles with families := handles.families ++ [first] } (history ++ [action]) where
  length_families := by rw [List.length_append, h.length_families, hmade]; rfl
  family_copy copy source hcopy := by
    rcases clonedFrom_concat.1 hcopy with hcopy | ⟨haction, rfl, hlt⟩
    · have hlt : copy < made history := hcopy.lt_made
      simp only [h.getElem?_concat hlt, h.getElem?_concat (hcopy.2.trans hlt)]
      exact h.family_copy copy source hcopy
    · simp only [h.getElem?_concat hlt, hcloned source haction, ← h.length_families]
      exact List.getElem?_concat_length
  sameFamily_first handle family hfamily := by
    rcases lt_trichotomy handle (made history) with hlt | rfl | hgt
    · simp only [h.getElem?_concat hlt] at hfamily
      exact (h.sameFamily_first handle family hfamily).append _
    · simp only [← h.length_families, List.getElem?_concat_length] at hfamily
      obtain rfl := Option.some.inj hfamily
      exact hfirst
    · have hlength : (handles.families ++ [first]).length ≤ handle := by
        rw [List.length_append, h.length_families]
        exact hgt
      rw [List.getElem?_eq_none hlength] at hfamily
      cases hfamily
  mem_stopped family := by
    rw [h.mem_stopped]
    refine exists_congr fun handle => ?_
    rw [requested_concat, or_iff_left fun hlast => hrequest handle hlast.1]
    exact and_congr_right fun hrequested => by simp only [h.getElem?_concat hrequested.lt_made]

/-- **A request** stops the family of its handle, if there is such a handle. -/
theorem request (h : handles.Tells history) (handle : Nat) :
    (handles.apply (.request handle)).Tells (history ++ [.request handle]) where
  length_families := by rw [made_concat]; exact h.length_families
  family_copy copy source hcopy := by
    rw [clonedFrom_concat] at hcopy
    exact h.family_copy copy source (hcopy.resolve_right fun hlast => by cases hlast.1)
  sameFamily_first other first hfirst := (h.sameFamily_first other first hfirst).append _
  mem_stopped first := by
    have hlt (hfamily : handles.families[handle]? = some first) : handle < made history :=
      h.length_families ▸ (List.getElem?_eq_some_iff.1 hfamily).1
    simp only [apply, List.mem_append, Option.mem_toList, h.mem_stopped, requested_concat]
    constructor
    · rintro (⟨other, hrequested, hfamily⟩ | hfamily)
      · exact ⟨other, .inl hrequested, hfamily⟩
      · exact ⟨handle, .inr ⟨rfl, hlt hfamily⟩, hfamily⟩
    · rintro ⟨other, hrequested | ⟨hlast, -⟩, hfamily⟩
      · exact .inl ⟨other, hrequested, hfamily⟩
      · obtain rfl := ShutdownAction.request.inj hlast
        exact .inr hfamily

/-- A clone of a handle that is not there changes nothing. -/
theorem clone_missing (h : handles.Tells history) (hle : made history ≤ source) :
    handles.Tells (history ++ [.clone source]) where
  length_families := by
    rw [made_concat, countMade, if_neg (Nat.not_lt.2 hle)]
    exact h.length_families
  family_copy copy source' hcopy := by
    rcases clonedFrom_concat.1 hcopy with hcopy | ⟨hlast, rfl, hlt⟩
    · exact h.family_copy copy source' hcopy
    · obtain rfl := ShutdownAction.clone.inj hlast
      exact absurd hlt (Nat.not_lt.2 hle)
  sameFamily_first other first hfirst := (h.sameFamily_first other first hfirst).append _
  mem_stopped first := by
    rw [h.mem_stopped]
    refine exists_congr fun other => and_congr_left fun _ => ?_
    rw [requested_concat, or_iff_left fun hlast => by cases hlast.1]

/-- **What is told of a history is told with one more action.** -/
theorem apply (h : handles.Tells history) (action : ShutdownAction) :
    (handles.apply action).Tells (history ++ [action]) := by
  cases action with
  | create =>
    refine h.concat (made_concat ..) (fun _ hlast => by cases hlast)
      (fun _ hlast => by cases hlast) ?_
    rw [h.length_families]
    exact .refl _
  | clone source =>
    rcases lt_or_ge source (made history) with hlt | hle
    · have hfamily : handles.families[source]? = some _ :=
        List.getElem?_eq_getElem (h.lt_length hlt)
      have hmade : made (history ++ [.clone source]) = made history + 1 := by
        rw [made_concat, countMade, if_pos hlt]
      -- the family is that of the source, and the clone step leads from it to the copy
      have hsource : SameFamily (history ++ [.clone source]) _ source :=
        (h.sameFamily_first source _ hfamily).append _
      have hcopy : ClonedFrom (history ++ [.clone source]) (made history) source :=
        clonedFrom_concat.2 (.inr ⟨rfl, rfl, hlt⟩)
      rw [ShutdownHandles.apply, hfamily, Option.toList_some]
      refine h.concat hmade (fun other hlast => ?_) (fun _ hlast => by cases hlast)
        (.trans _ _ _ hsource (.symm _ _ (.rel _ _ hcopy)))
      obtain rfl := ShutdownAction.clone.inj hlast
      exact hfamily
    · have hfamily : handles.families[source]? = none :=
        List.getElem?_eq_none (h.length_families ▸ hle)
      rw [ShutdownHandles.apply, hfamily, Option.toList_none, List.append_nil]
      exact h.clone_missing hle
  | request handle => exact h.request handle

/-- Two handles are kept under one family just if clone steps connect them. -/
theorem sameFamily_iff (h : handles.Tells history) (hlt : handle < made history) :
    SameFamily history other handle ↔ handles.families[other]? = handles.families[handle]? := by
  refine ⟨SameFamily.congr h.family_copy, fun heq => ?_⟩
  have hfamily : handles.families[handle]? = some _ := List.getElem?_eq_getElem (h.lt_length hlt)
  have hother := h.sameFamily_first other _ (heq.trans hfamily)
  exact .trans _ _ _ (.symm _ _ hother) (h.sameFamily_first handle _ hfamily)

end Tells

/-- **The handles tell their history.** -/
theorem tells_ofHistory (history : List ShutdownAction) : (ofHistory history).Tells history := by
  induction history using List.reverseRecOn with
  | nil => exact .nil
  | append_singleton history action ih =>
    rw [ofHistory_concat]
    exact ih.apply action

/-- **A handle is stopped just if shutdown was requested on its family.** -/
theorem isRunning_eq_false_iff (hlt : handle < made history) :
    (ofHistory history).isRunning handle = false ↔
      ∃ other, Requested history other ∧ SameFamily history other handle := by
  have htells := tells_ofHistory history
  have hfamily : (ofHistory history).families[handle]? = some _ :=
    List.getElem?_eq_getElem (htells.lt_length hlt)
  simp only [isRunning, hfamily, Bool.not_eq_false', List.contains_iff_mem, htells.mem_stopped,
    htells.sameFamily_iff hlt]

/-- An action only adds to the families that are noted. -/
theorem families_apply (handles : ShutdownHandles) (action : ShutdownAction) :
    handles.families <+: (handles.apply action).families := by
  cases action with
  | create => exact List.prefix_append ..
  | clone source => exact List.prefix_append ..
  | request handle => exact List.prefix_refl _

/-- Handles stay under the families that they were made under. -/
theorem families_append (history later : List ShutdownAction) :
    (ofHistory history).families <+: (ofHistory (history ++ later)).families := by
  induction later generalizing history with
  | nil =>
    simp only [List.append_nil]
    exact List.prefix_rfl
  | cons action later ih =>
    have hmore := ih (history ++ [action])
    rw [ofHistory_concat, ← List.append_cons] at hmore
    exact (families_apply _ action).trans hmore

/-- Families that are apart are never joined. -/
theorem SameFamily.of_append (hhandle : handle < made history) (hother : other < made history)
    (h : SameFamily (history ++ later) other handle) : SameFamily history other handle := by
  have htells := tells_ofHistory history
  have hlt : handle < made (history ++ later) := hhandle.trans_le (made_le_append history later)
  rw [(tells_ofHistory _).sameFamily_iff hlt] at h
  obtain ⟨added, hadded⟩ := families_append history later
  rw [← hadded, List.getElem?_append_left (htells.lt_length hhandle),
    List.getElem?_append_left (htells.lt_length hother)] at h
  exact (htells.sameFamily_iff hhandle).2 h

/-- A request is not taken back by later actions. -/
theorem Requested.append (h : Requested history handle) (later : List ShutdownAction) :
    Requested (history ++ later) handle := by
  obtain ⟨count, hplace, hlt⟩ := h
  exact ⟨count, hplace.append later, hlt⟩

/-- A request was made in the first part of a history or stands among the later actions. -/
theorem Requested.of_append (h : Requested (history ++ later) handle) :
    Requested history handle ∨ .request handle ∈ later := by
  induction later using List.reverseRecOn with
  | nil => exact .inl (by rwa [List.append_nil] at h)
  | append_singleton later action ih =>
    rw [← List.append_assoc, requested_concat] at h
    rcases h with h | ⟨rfl, -⟩
    · exact (ih h).imp_right (List.mem_append_left _)
    · exact .inr List.mem_concat_self

/-- **Handles stop by families, and for good.**

A history makes its handles, and each of them is stopped just if shutdown was requested on a handle
of its family, itself or one that clone steps connect it with.  So a handle that is stopped stays
so, whatever is done later; a clone and its source are stopped or running together, whether the
request comes before or after the clone; and what is done later without a request on its family
leaves a handle as it is. -/
theorem ofHistory_stopsFamilies (history : List ShutdownAction) :
    (ofHistory history).running.length = made history ∧
      ∀ handle < made history,
        ((ofHistory history).isRunning handle = false ↔
          ∃ other, Requested history other ∧ SameFamily history other handle) ∧
        (∀ later, (ofHistory history).isRunning handle = false →
          (ofHistory (history ++ later)).isRunning handle = false) ∧
        (∀ later,
          let cloned := history ++ .clone handle :: later
          made history < made cloned ∧
            (ofHistory cloned).isRunning (made history) = (ofHistory cloned).isRunning handle) ∧
        ∀ later, (∀ other, SameFamily (history ++ later) other handle → .request other ∉ later) →
          (ofHistory (history ++ later)).isRunning handle =
            (ofHistory history).isRunning handle := by
  have hlength : (ofHistory history).running.length = made history := by
    rw [running, List.length_map, List.length_range, (tells_ofHistory history).length_families]
  refine ⟨hlength, fun handle hlt => ⟨isRunning_eq_false_iff hlt, ?_, ?_, ?_⟩⟩
  all_goals
    intro later
    have hlater : handle < made (history ++ later) := hlt.trans_le (made_le_append history later)
  · intro hstopped
    obtain ⟨other, hrequested, hfamily⟩ := (isRunning_eq_false_iff hlt).1 hstopped
    exact (isRunning_eq_false_iff hlater).2 ⟨other, hrequested.append later, hfamily.append later⟩
  · intro cloned
    have hcopy : ClonedFrom cloned (made history) handle := ⟨⟨history, later, rfl, rfl⟩, hlt⟩
    refine ⟨hcopy.lt_made, ?_⟩
    rw [isRunning, (tells_ofHistory cloned).family_copy _ _ hcopy]
    rfl
  · intro hothers
    rw [Bool.eq_iff_iff, ← not_iff_not, Bool.not_eq_true, Bool.not_eq_true,
      isRunning_eq_false_iff hlater, isRunning_eq_false_iff hlt]
    constructor
    · rintro ⟨other, hrequested, hfamily⟩
      have hrequested := hrequested.of_append.resolve_right (hothers other hfamily)
      exact ⟨other, hrequested, hfamily.of_append hlt hrequested.lt_made⟩
    · rintro ⟨other, hrequested, hfamily⟩
      exact ⟨other, hrequested.append later, hfamily.append later⟩

/-- A clone of a clone, made after the request on another clone: it is stopped and stays so, and a
request on it leaves alone the handle that was made anew. -/
theorem ofHistory_stopsFamilies_late_clone :
    let history : List ShutdownAction :=
      [.create, .clone 0, .create, .request 1, .clone 0, .clone 3]
    let again : List ShutdownAction := [.request 4]
    4 < made history ∧ (ofHistory history).isRunning 4 = false ∧
      (∃ other, Requested history other ∧ SameFamily history other 4) ∧
      (∀ later, (ofHistory (history ++ later)).isRunning 4 = false) ∧
      (∀ other, SameFamily (history ++ again) other 2 → .request other ∉ again) ∧
      (ofHistory (history ++ again)).isRunning 2 = (ofHistory history).isRunning 2 := by
  intro history again
  have hstopped : (ofHistory history).isRunning 4 = false := by decide
  have hapart (other : Nat) (hfamily : SameFamily (history ++ again) other 2) :
      .request other ∉ again := by
    intro hmem
    obtain rfl := ShutdownAction.request.inj (List.mem_singleton.1 hmem)
    exact absurd (((tells_ofHistory _).sameFamily_iff (by decide)).1 hfamily) (by decide)
  obtain ⟨hiff, hstays, -, -⟩ := (ofHistory_stopsFamilies history).2 4 (by decide)
  obtain ⟨-, -, -, hothers⟩ := (ofHistory_stopsFamilies history).2 2 (by decide)
  exact ⟨by decide, hstopped, hiff.1 hstopped, fun later => hstays later hstopped, hapart,
    hothers _ hapart⟩

/-- A program that starts out with one handle has made it. -/
example (history : List ShutdownAction) :
    ofHistory (.create :: history) = history.foldl apply {} :=
  rfl

end ShutdownHandles
end OctetRelay
