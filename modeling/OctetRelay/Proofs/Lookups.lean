/-
# What is found in a dictionary

A dictionary in key order is known by what is found in it (`ext_get?`).  Three
things are done with dictionaries, and for each a look-up afterwards is told by
look-ups before:

| made by | a look-up finds |
| --- | --- |
| `ofList pairs` | the value of the last pair with the key (`last?`) |
| `union first second` | the value in the second, else the one in the first |
| `Value.mergeEntries below above` | the value above set over the one below |

In the last line values that are dictionaries themselves are merged; every other
value above counts alone.

Source: `get` of properties and the merging of layers; `SPEC_FULL.md` 11, the
merged sources.
-/

import OctetRelay.Client.Configuration
import OctetRelay.Properties
import OctetRelay.Settings.Value

namespace OctetRelay
namespace Dictionary

variable {α : Type}

/-- The value of the last pair whose key is wanted. -/
def last? (wanted : String → Bool) : List (String × α) → Option α
  | [] => none
  | (key, value) :: rest => (last? wanted rest).or (if wanted key then some value else none)

/-- The last value of a joined list is that of its back, and else that of its front. -/
theorem last?_append (wanted : String → Bool) (front back : List (String × α)) :
    last? wanted (front ++ back) = (last? wanted back).or (last? wanted front) := by
  induction front with
  | nil => exact (Option.or_none).symm
  | cons pair rest ih => rw [List.cons_append, last?, last?, ih, Option.or_assoc]

/-- The last value that is wanted is the value of a wanted key. -/
theorem mem_of_last? {wanted : String → Bool} {entries : List (String × α)} {value : α}
    (h : last? wanted entries = some value) : ∃ key, (key, value) ∈ entries ∧ wanted key = true := by
  induction entries with
  | nil => cases h
  | cons entry rest ih =>
    rw [last?, Option.or_eq_some_iff] at h
    rcases h with hrest | ⟨-, hentry⟩
    · obtain ⟨key, hmem, hkey⟩ := ih hrest
      exact ⟨key, List.mem_cons_of_mem _ hmem, hkey⟩
    · split at hentry
      · rename_i hkey
        obtain rfl := Option.some.inj hentry
        exact ⟨entry.1, List.mem_cons_self, hkey⟩
      · cases hentry

/-- Where no key is wanted there is no last value. -/
theorem last?_never (entries : List (String × α)) : last? (fun _ => false) entries = none := by
  induction entries with
  | nil => rfl
  | cons entry rest ih =>
    rw [last?, ih]
    rfl

/-- After inserting pairs one by one, the last one with a key counts. -/
theorem get?_foldl_insert (pairs entries : List (String × α)) (key : String) :
    get? key (pairs.foldl (fun entries pair => insert pair.1 pair.2 entries) entries) =
      (last? (· == key) pairs).or (get? key entries) := by
  induction pairs generalizing entries with
  | nil => rfl
  | cons pair rest ih =>
    rw [List.foldl_cons, ih, get?_insert, last?, Option.or_assoc]
    by_cases hkey : pair.1 = key
    · simp [hkey]
    · simp [hkey]

/-- **A look-up after `ofList`** finds the last value of the key. -/
theorem get?_ofList (pairs : List (String × α)) (key : String) :
    get? key (ofList pairs) = last? (· == key) pairs := by
  rw [ofList, get?_foldl_insert]
  exact Option.or_none

/-- What is not found above the first key is not found at all. -/
theorem get?_eq_none_of_lt {key : String} {entries : List (String × α)}
    (h : ∀ pair ∈ entries, key < pair.1) : get? key entries = none := by
  induction entries with
  | nil => rfl
  | cons pair rest ih =>
    have hlt : key < pair.1 := h pair List.mem_cons_self
    have hne : pair.1 ≠ key := fun heq => String.lt_irrefl key (heq ▸ hlt)
    rw [get?, if_neg hne]
    exact ih fun other hother => h other (List.mem_cons_of_mem _ hother)

/-- A key of a dictionary in order stands there once. -/
theorem get?_rest_eq_none {key : String} {value : α} {rest : List (String × α)}
    (h : Ordered ((key, value) :: rest)) : get? key rest = none :=
  get?_eq_none_of_lt (List.pairwise_cons.1 h).1

/-- **In a dictionary in order a look-up finds just the entries.** -/
theorem get?_eq_some_iff {entries : List (String × α)} (h : Ordered entries) {key : String}
    {value : α} : get? key entries = some value ↔ (key, value) ∈ entries := by
  induction entries with
  | nil => simp [get?]
  | cons entry rest ih =>
    rw [get?, List.mem_cons, ← ih h.tail]
    split
    · rename_i hkey
      subst hkey
      rw [get?_rest_eq_none h]
      constructor
      · intro hvalue
        obtain rfl := Option.some.inj hvalue
        exact .inl rfl
      · rintro (hentry | hrest)
        · rw [← hentry]
        · cases hrest
    · rename_i hkey
      constructor
      · exact .inr
      · rintro (hentry | hrest)
        · exact absurd (congrArg Prod.fst hentry).symm hkey
        · exact hrest

/-- In a dictionary in order the last value of a key is the one that is found. -/
theorem last?_eq_get? {entries : List (String × α)} (h : Ordered entries) (key : String) :
    last? (· == key) entries = get? key entries := by
  induction entries with
  | nil => rfl
  | cons pair rest ih =>
    rw [last?, ih (List.pairwise_cons.1 h).2, get?]
    by_cases hkey : pair.1 = key
    · subst hkey
      rw [get?_rest_eq_none h]
      simp
    · simp [hkey]

/-- **A look-up after `union`** finds what the second dictionary has, and else what the first one
has. -/
theorem get?_union {second : List (String × α)} (hsecond : Ordered second)
    (first : List (String × α)) (key : String) :
    get? key (union first second) = (get? key second).or (get? key first) := by
  rw [union, get?_foldl_insert, last?_eq_get? hsecond]

/-- Nothing is found below the first key of a dictionary in order. -/
theorem not_lt_of_get? {key : String} {value : α} {pair : String × α} {rest : List (String × α)}
    (hordered : Ordered (pair :: rest)) (h : get? key (pair :: rest) = some value) :
    ¬ key < pair.1 := fun hlt => by
  have hbelow := (List.pairwise_cons.1 hordered).1
  rw [get?_eq_none_of_lt fun other hother => ?_] at h
  · cases h
  · rcases List.mem_cons.1 hother with rfl | hother
    · exact hlt
    · exact String.lt_trans hlt (hbelow other hother)

/-- The first key of a dictionary is found. -/
theorem get?_cons_self (pair : String × α) (rest : List (String × α)) :
    get? pair.1 (pair :: rest) = some pair.2 := by
  rw [get?, if_pos rfl]

/-- **A dictionary in order is known by its look-ups.** -/
theorem ext_get? {first second : List (String × α)} (hfirst : Ordered first)
    (hsecond : Ordered second) (h : ∀ key, get? key first = get? key second) : first = second := by
  induction first generalizing second with
  | nil =>
    cases second with
    | nil => rfl
    | cons pair rest => exact absurd ((h pair.1).trans (get?_cons_self ..)) (by simp [get?])
  | cons pair rest ih =>
    cases second with
    | nil => exact absurd ((h pair.1).symm.trans (get?_cons_self ..)) (by simp [get?])
    | cons other others =>
      have hkey : pair.1 = other.1 := by
        refine String.le_antisymm (String.not_lt.1 ?_) (String.not_lt.1 ?_)
        · exact not_lt_of_get? hfirst ((h other.1).trans (get?_cons_self ..))
        · exact not_lt_of_get? hsecond ((h pair.1).symm.trans (get?_cons_self ..))
      have hvalue : pair.2 = other.2 := by
        have hfound := (h pair.1).symm.trans (get?_cons_self pair rest)
        rw [hkey, get?_cons_self] at hfound
        exact (Option.some.inj hfound).symm
      obtain rfl : pair = other := Prod.ext hkey hvalue
      refine congrArg (pair :: ·) (ih hfirst.tail hsecond.tail fun key => ?_)
      by_cases hsame : pair.1 = key
      · subst hsame
        rw [get?_rest_eq_none hfirst, get?_rest_eq_none hsecond]
      · have hrest := h key
        rwa [get?, if_neg hsame, get?, if_neg hsame] at hrest

end Dictionary

namespace PropertyMap

/-- A look-up after `ofList` finds the last value of the key. -/
theorem get?_ofList (pairs : List (String × String)) (key : String) :
    (ofList pairs).get? key = Dictionary.last? (· == key) pairs := Dictionary.get?_ofList pairs key

/-- A look-up after `union` finds what the second map has, and else what the first one has. -/
@[simp] theorem get?_union (first second : PropertyMap) (key : String) :
    (first.union second).get? key = (second.get? key).or (first.get? key) :=
  Dictionary.get?_union second.ordered first.entries key

/-- A look-up after inserting a value that may be missing. -/
@[simp] theorem get?_insert? (map : PropertyMap) (key other : String) (value : Option String) :
    (map.insert? key value).get? other =
      if key = other then value.or (map.get? other) else map.get? other := by
  cases value with
  | none => simp [insert?]
  | some value => rw [insert?, get?_insert, Option.some_or]

/-- **Properties are known by their look-ups.** -/
theorem ext_get? {map other : PropertyMap} (h : ∀ key, map.get? key = other.get? key) :
    map = other := by
  obtain ⟨entries, ordered⟩ := map
  obtain ⟨others, ordered'⟩ := other
  obtain rfl : entries = others := Dictionary.ext_get? ordered ordered' h
  rfl

/-- Nothing below a map leaves it as it is. -/
@[simp] theorem empty_union (map : PropertyMap) : empty.union map = map :=
  ext_get? fun key => by simp

end PropertyMap

namespace Properties

/-- **The value of a key in a file is its last one.** -/
theorem get?_eq_last? (properties : Properties) (key : String) :
    properties.get? key = Dictionary.last? (· == key) properties.entries := by
  unfold get?
  induction properties.entries with
  | nil => rfl
  | cons entry rest ih =>
    rw [List.reverse_cons, List.find?_append, Dictionary.last?, ← ih]
    cases rest.reverse.find? (·.1 == key) with
    | some found => rfl
    | none =>
      rw [Option.none_or, Option.map_none, Option.none_or, List.find?_singleton]
      split <;> rfl

end Properties

namespace Value

open Dictionary (get? insert Ordered)

/-- The first entry above is set over what stands under its key. -/
theorem mergeEntries_cons (below above : List (String × Value)) (key : String) (value : Value) :
    mergeEntries below ((key, value) :: above) =
      mergeEntries (insert key (((get? key below).map (merge · value)).getD value) below)
        above := by
  rw [mergeEntries]
  cases get? key below <;> rfl

/-- Merging keeps the order of keys. -/
theorem ordered_mergeEntries {below : List (String × Value)} (above : List (String × Value))
    (h : Ordered below) : Ordered (mergeEntries below above) := by
  induction above generalizing below with
  | nil => exact h
  | cons pair above ih =>
    rw [mergeEntries_cons]
    exact ih (Dictionary.ordered_insert _ _ h)

/-- **A look-up after merging** finds the value above, set over the one below if there are both, and
else the one that there is. -/
theorem get?_mergeEntries {above : List (String × Value)} (h : Ordered above)
    (below : List (String × Value)) (key : String) :
    get? key (mergeEntries below above) =
      ((get? key above).map fun value =>
        ((get? key below).map (merge · value)).getD value).or (get? key below) := by
  induction above generalizing below with
  | nil => rfl
  | cons pair above ih =>
    rw [mergeEntries_cons, ih h.tail, Dictionary.get?_insert, get?]
    by_cases hkey : pair.1 = key
    · subst hkey
      rw [Dictionary.get?_rest_eq_none h]
      simp
    · rw [if_neg hkey, if_neg hkey]

/-- Merged into nothing, a dictionary stays as it is. -/
theorem mergeEntries_nil {entries : List (String × Value)} (h : Ordered entries) :
    mergeEntries [] entries = entries := by
  refine Dictionary.ext_get? (ordered_mergeEntries entries .nil) h fun key => ?_
  rw [get?_mergeEntries h]
  cases get? key entries <;> rfl

/-- Set over anything, a value that is no dictionary counts alone. -/
theorem merge_of_not_dict {value : Value} (h : ∀ origin entries, value ≠ .dict origin entries)
    (below : Value) : merge below value = value := by
  cases value with
  | dict origin entries => exact absurd rfl (h origin entries)
  | scalar | list => cases below <;> rfl

end Value
end OctetRelay
