/-
# Dictionaries in key order

A dictionary is a list of pairs whose keys rise strictly.  `insert` keeps that
order, and what it does to a look-up is said once, in `get?_insert`.

Source: the maps of `PipelineConfig` and of its layers; `SPEC_FULL.md` 11, the
merged sources.
-/

namespace OctetRelay
namespace Dictionary

variable {α : Type}

/-- The keys rise strictly. -/
abbrev Ordered (entries : List (String × α)) : Prop :=
  entries.Pairwise fun a b => a.1 < b.1

/-- The value of a key. -/
def get? (key : String) : List (String × α) → Option α
  | [] => none
  | (k, v) :: rest => if k = key then some v else get? key rest

/-- Sets the value of a key. -/
def insert (key : String) (value : α) : List (String × α) → List (String × α)
  | [] => [(key, value)]
  | (k, v) :: rest =>
    if key < k then (key, value) :: (k, v) :: rest
    else if key = k then (key, value) :: rest
    else (k, v) :: insert key value rest

/-- The dictionary of some pairs; of two with one key the later one counts. -/
def ofList (pairs : List (String × α)) : List (String × α) :=
  pairs.foldl (fun entries pair => insert pair.1 pair.2 entries) []

/-- The entries of the second dictionary set in the first. -/
def union (first second : List (String × α)) : List (String × α) :=
  second.foldl (fun entries pair => insert pair.1 pair.2 entries) first

/-- An entry of a dictionary after `insert` is the new one or an old one. -/
theorem mem_insert {key : String} {value : α} {entries : List (String × α)}
    {pair : String × α} (h : pair ∈ insert key value entries) :
    pair = (key, value) ∨ pair ∈ entries := by
  induction entries with
  | nil => simpa [insert] using h
  | cons entry rest ih =>
    obtain ⟨k, v⟩ := entry
    rw [insert] at h
    split at h
    · simpa using h
    · split at h
      · rcases List.mem_cons.1 h with h | h
        · exact .inl h
        · exact .inr (List.mem_cons_of_mem _ h)
      · rcases List.mem_cons.1 h with h | h
        · exact .inr (h ▸ List.mem_cons_self)
        · exact (ih h).imp_right (List.mem_cons_of_mem _)

/-- **The order is kept.** -/
theorem ordered_insert (key : String) (value : α) {entries : List (String × α)}
    (h : Ordered entries) : Ordered (insert key value entries) := by
  induction entries with
  | nil => simp [insert]
  | cons entry rest ih =>
    obtain ⟨k, v⟩ := entry
    obtain ⟨below, ordered⟩ := List.pairwise_cons.1 h
    rw [insert]
    split
    · rename_i less
      refine List.pairwise_cons.2 ⟨fun pair mem => ?_, h⟩
      rcases List.mem_cons.1 mem with rfl | mem
      · exact less
      · exact String.lt_trans less (below pair mem)
    · split
      · rename_i same
        exact List.pairwise_cons.2 ⟨fun pair mem => same ▸ below pair mem, ordered⟩
      · rename_i notLess different
        refine List.pairwise_cons.2 ⟨fun pair mem => ?_, ih ordered⟩
        rcases mem_insert mem with rfl | mem
        · exact String.not_le.1 fun le =>
            notLess (String.not_le.1 fun le' => different (String.le_antisymm le le'))
        · exact below pair mem

/-- A union is in order if its first part is. -/
theorem ordered_union {first : List (String × α)} (second : List (String × α))
    (h : Ordered first) : Ordered (union first second) := by
  unfold union
  induction second generalizing first with
  | nil => exact h
  | cons pair rest ih => exact ih (ordered_insert _ _ h)

/-- A dictionary made of pairs is in order. -/
theorem ordered_ofList (pairs : List (String × α)) : Ordered (ofList pairs) :=
  ordered_union pairs List.Pairwise.nil

/-- **A look-up after `insert`** finds the new value under its key and the old ones under
all others. -/
theorem get?_insert (key : String) (value : α) (entries : List (String × α)) (other : String) :
    get? other (insert key value entries) =
      if key = other then some value else get? other entries := by
  induction entries with
  | nil => simp [insert, get?]
  | cons entry rest ih =>
    obtain ⟨k, v⟩ := entry
    rw [insert]
    split
    · simp [get?]
    · split
      · rename_i same
        subst same
        simp [get?]
        split <;> simp_all
      · rename_i different
        simp only [get?, ih]
        split
        · rename_i found
          subst found
          simp [different]
        · rfl

end Dictionary

/-- Named client properties, in key order. -/
structure PropertyMap where
  entries : List (String × String)
  ordered : Dictionary.Ordered entries
  deriving DecidableEq

namespace PropertyMap

/-- No properties. -/
def empty : PropertyMap := ⟨[], List.Pairwise.nil⟩

/-- The value of a property. -/
def get? (map : PropertyMap) (key : String) : Option String :=
  Dictionary.get? key map.entries

/-- Sets a property. -/
def insert (map : PropertyMap) (key value : String) : PropertyMap :=
  ⟨Dictionary.insert key value map.entries, Dictionary.ordered_insert key value map.ordered⟩

/-- The properties of some pairs; of two with one key the later one counts. -/
def ofList (pairs : List (String × String)) : PropertyMap :=
  ⟨Dictionary.ofList pairs, Dictionary.ordered_ofList pairs⟩

/-- Nothing is found among no properties. -/
@[simp] theorem get?_empty (key : String) : empty.get? key = none := rfl

/-- A look-up after an insertion finds the new value under its key. -/
@[simp] theorem get?_insert (map : PropertyMap) (key value other : String) :
    (map.insert key value).get? other = if key = other then some value else map.get? other :=
  Dictionary.get?_insert key value map.entries other

end PropertyMap
end OctetRelay
