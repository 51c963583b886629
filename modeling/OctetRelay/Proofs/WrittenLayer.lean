/-
# Layers as dictionaries

The layers of settings meet as dictionaries of values.  A value is seen through
a view, which is the type its setting has: `text?`, `texts?`, `number?`,
`flag?`, `startOffset?`.  A dictionary writes a layer (`Writes`) if the view of
each setting finds just what the layer gives for it.

A layer's own entries write it (`writes_toEntries`), and merging writes the
upper layer over the lower one (`Writes.merge`).

Source: `ConfigOverrides` and `from_layers`; `SPEC_FULL.md` 11, the merged
sources.
-/

import OctetRelay.Proofs.Lookups
import OctetRelay.Proofs.OffsetText
import OctetRelay.Settings.Layer

namespace OctetRelay

open Dictionary (get? last? Ordered)

namespace Value

/-- The text that a value is. -/
def text? : Value → Option String
  | .scalar _ (.text text) => some text
  | _ => none

/-- The texts that a list is made of. -/
def texts? : Value → Option (List String)
  | .list _ items => items.mapM text?
  | _ => none

/-- The integer that a value is. -/
def integer? : Value → Option Int
  | .scalar _ (.unsigned number) => some number.toNat
  | .scalar _ (.signed number) => some number.toInt
  | _ => none

/-- The number that a value of a range stands for. -/
def number? {α : Type} (range : Text.IntegerRange) (number : Int → α) (value : Value) : Option α :=
  value.integer?.bind fun n => if range.contains n then some (number n) else none

/-- The flag that a value is. -/
def flag? : Value → Option Bool
  | .scalar _ (.flag flag) => some flag
  | _ => none

/-- The starting position that a value denotes, an explicit offset below zero included. -/
def startOffset? : Value → Option StartOffset
  | .scalar _ (.text text) => StartOffset.denoted? text
  | .scalar _ (.unsigned number) =>
    if number.toNat < Nat.pow 2 63 then some (.explicit (.ofInt number.toNat)) else none
  | .scalar _ (.signed number) => some (.explicit number)
  | _ => none

/-- The entries of a dictionary. -/
def entries? : Value → Option (List (String × Value))
  | .dict _ entries => some entries
  | _ => none

end Value

namespace SettingsLayer

/-- What a view sees under a name is what is given for it, and there is nothing under the name if
nothing is given. -/
def Gives {α : Type} (entries : List (String × Value)) (name : String) (view : Value → Option α)
    (given : Option α) : Prop :=
  (get? name entries).map view = given.map some

/-- The entries of the client properties; there are none under a name that is not there. -/
def properties? (entries : List (String × Value)) : Option (List (String × Value)) :=
  match get? "kafka" entries with
  | none => some []
  | some value => value.entries?

/-- **The entries write the layer**: every value among them has the type of its setting and is what
the layer gives. -/
structure Writes (entries : List (String × Value)) (layer : SettingsLayer) : Prop where
  brokers : Gives entries "brokers" Value.text? layer.brokers
  groupId : Gives entries "group_id" Value.text? layer.groupId
  consumerTopics : Gives entries "consumer_topics" Value.texts? layer.consumerTopics
  producerTopic : Gives entries "producer_topic" Value.text? layer.producerTopic
  partition : Gives entries "partition" (Value.number? .signed32 .ofInt) layer.partition
  offset : Gives entries "offset" Value.startOffset? layer.offset
  consumerTimeoutMs :
    Gives entries "consumer_timeout_ms" (Value.number? .unsigned64 (.ofNat ·.toNat))
      layer.consumerTimeoutMs
  exitOnEof : Gives entries "exit_on_eof" Value.flag? layer.exitOnEof
  partitionCount :
    Gives entries "partition_count" (Value.number? .unsigned32 (.ofNat ·.toNat))
      layer.partitionCount
  debug : Gives entries "debug" Value.text? layer.debug
  skipBytes :
    Gives entries "skip_bytes" (Value.number? .unsigned64 (.ofNat ·.toNat)) layer.skipBytes
  kafka : ∃ properties, properties? entries = some properties ∧
    ∀ key, Gives properties key Value.text? (layer.kafka.get? key)

/-- One layer over another: each setting is the upper one's where it has one, and so is each client
property. -/
def atop (above below : SettingsLayer) : SettingsLayer where
  brokers := above.brokers.or below.brokers
  groupId := above.groupId.or below.groupId
  consumerTopics := above.consumerTopics.or below.consumerTopics
  producerTopic := above.producerTopic.or below.producerTopic
  partition := above.partition.or below.partition
  offset := above.offset.or below.offset
  consumerTimeoutMs := above.consumerTimeoutMs.or below.consumerTimeoutMs
  exitOnEof := above.exitOnEof.or below.exitOnEof
  partitionCount := above.partitionCount.or below.partitionCount
  debug := above.debug.or below.debug
  skipBytes := above.skipBytes.or below.skipBytes
  kafka := below.kafka.union above.kafka

/-- The settings of a layer over the defaults. -/
def settings (layer : SettingsLayer) : Settings :=
  let defaults : Settings := {}
  { brokers := layer.brokers.getD defaults.brokers
    groupId := layer.groupId.getD defaults.groupId
    consumerTopics := layer.consumerTopics.getD defaults.consumerTopics
    producerTopic := layer.producerTopic.getD defaults.producerTopic
    partition := layer.partition.or defaults.partition
    offset := layer.offset.or defaults.offset
    consumerTimeoutMs := layer.consumerTimeoutMs.getD defaults.consumerTimeoutMs
    exitOnEof := layer.exitOnEof.getD defaults.exitOnEof
    partitionCount := layer.partitionCount.getD defaults.partitionCount
    debug := layer.debug.or defaults.debug
    skipBytes := layer.skipBytes.getD defaults.skipBytes
    kafka := defaults.kafka.union layer.kafka }

/-- Where nothing stands under the name, nothing is given. -/
theorem Gives.of_none {α : Type} {entries : List (String × Value)} {name : String}
    {view : Value → Option α} {given : Option α} (h : Gives entries name view given)
    (hget : get? name entries = none) : given = none := by
  rw [Gives, hget] at h
  exact Option.map_eq_none_iff.1 h.symm

/-- The view of a value that stands under the name is what is given. -/
theorem Gives.of_some {α : Type} {entries : List (String × Value)} {name : String}
    {view : Value → Option α} {given : Option α} (h : Gives entries name view given)
    {value : Value} (hget : get? name entries = some value) :
    ∃ x, given = some x ∧ view value = some x := by
  rw [Gives, hget] at h
  obtain ⟨x, hx, hview⟩ := Option.map_eq_some_iff.1 h.symm
  exact ⟨x, hx, hview.symm⟩

/-! ### A layer's own entries -/

/-- A value that may be missing is the last one under its own name. -/
theorem last?_toList {α β : Type} (wanted : String → Bool) (name : String) (content : α → β)
    (given : Option α) :
    last? wanted (given.map fun x => (name, content x)).toList =
      if wanted name then given.map content else none := by
  cases given with
  | none => simp [last?]
  | some x => simp [last?]

/-- The same for one that is left out under a condition. -/
theorem last?_ite {α : Type} (wanted : String → Bool) (c : Prop) [Decidable c] (name : String)
    (value : α) :
    last? wanted (if c then [] else [(name, value)]) =
      if wanted name then if c then none else some value else none := by
  split <;> simp [last?]

/-- A word with a sign is in its range. -/
theorem contains_signed32 (n : Int32) : Text.IntegerRange.signed32.contains n.toInt = true := by
  have hlow := n.le_toInt
  have hhigh := n.toInt_lt
  rw [Text.IntegerRange.contains_iff]
  exact ⟨hlow, Int.le_sub_one_of_lt hhigh⟩

/-- A word of 64 bits is in its range. -/
theorem contains_unsigned64 (n : UInt64) :
    Text.IntegerRange.unsigned64.contains n.toNat = true := by
  have hhigh := n.toNat_lt
  rw [Text.IntegerRange.contains_iff]
  exact ⟨Int.natCast_nonneg _, Int.ofNat_le.2 (Nat.le_sub_one_of_lt hhigh)⟩

/-- A word of 32 bits is in its range. -/
theorem contains_unsigned32 (n : UInt32) :
    Text.IntegerRange.unsigned32.contains n.toNat = true := by
  have hhigh := n.toNat_lt
  rw [Text.IntegerRange.contains_iff]
  exact ⟨Int.natCast_nonneg _, Int.ofNat_le.2 (Nat.le_sub_one_of_lt hhigh)⟩

/-- A list that is made of texts shows them. -/
theorem texts?_list (origin : Origin) (texts : List String) :
    (Value.list origin (texts.map fun text => .scalar origin (.text text))).texts? =
      some texts := by
  rw [Value.texts?]
  induction texts with
  | nil => rfl
  | cons text rest ih =>
    rw [List.map_cons, List.mapM_cons, ih]
    rfl

/-- Each client property is found as a text. -/
theorem gives_map (origin : Origin) (entries : List (String × String)) (key : String) :
    Gives (entries.map fun (key, value) => (key, Value.scalar origin (.text value))) key Value.text?
      (get? key entries) := by
  induction entries with
  | nil => rfl
  | cons pair rest ih =>
    rw [Gives, List.map_cons, get?, get?]
    split
    · rfl
    · exact ih

/-- The client properties of a layer stand together in one dictionary, if there are any. -/
theorem get?_kafka_toEntries (layer : SettingsLayer) (origin : Origin) :
    get? "kafka" (layer.toEntries origin) =
      if layer.kafka.entries = [] then none
      else some (.dict origin
        (layer.kafka.entries.map fun (key, value) => (key, .scalar origin (.text value)))) := by
  simp [toEntries, Dictionary.get?_ofList, Dictionary.last?_append, last?_toList, last?_ite,
    Function.comp_def]

/-- **The entries of a layer write it.** -/
theorem writes_toEntries (layer : SettingsLayer) (origin : Origin) :
    Writes (layer.toEntries origin) layer := by
  constructor
  case kafka =>
    by_cases hempty : layer.kafka.entries = []
    · refine ⟨[], ?_, fun key => ?_⟩
      · rw [properties?, get?_kafka_toEntries, if_pos hempty]
      · rw [PropertyMap.get?, hempty]
        rfl
    · refine ⟨_, ?_, gives_map origin layer.kafka.entries⟩
      rw [properties?, get?_kafka_toEntries, if_neg hempty]
      rfl
  all_goals
    simp [Gives, toEntries, Dictionary.get?_ofList, Dictionary.last?_append, last?_toList,
      last?_ite, Function.comp_def, Value.text?, Value.number?, Value.integer?, Value.flag?,
      Value.startOffset?, texts?_list, contains_signed32, contains_unsigned32, contains_unsigned64]

/-! ### One layer over another -/

/-- **What is given above counts, and else what is given below.** -/
theorem Gives.merge {α : Type} {below above : List (String × Value)} {name : String}
    {view : Value → Option α} {lower upper : Option α}
    (hview : ∀ origin entries, view (.dict origin entries) = none) (hordered : Ordered above)
    (habove : Gives above name view upper) (hbelow : Gives below name view lower) :
    Gives (Value.mergeEntries below above) name view (upper.or lower) := by
  rw [Gives, Value.get?_mergeEntries hordered]
  cases hvalue : get? name above with
  | none =>
    rw [habove.of_none hvalue, Option.map_none, Option.none_or, Option.none_or]
    exact hbelow
  | some value =>
    obtain ⟨x, rfl, hx⟩ := habove.of_some hvalue
    have hscalar (other : Value) : Value.merge other value = value :=
      Value.merge_of_not_dict (fun origin entries heq => by simp [heq, hview] at hx) other
    have hcounts : ((get? name below).map (Value.merge · value)).getD value = value := by
      cases get? name below with
      | none => rfl
      | some other => exact hscalar other
    rw [Option.map_some, hcounts, Option.some_or, Option.some_or, Option.map_some, hx]
    rfl

/-! ### What merged entries show -/

section Shown

variable {α : Type} {entries : List (String × Value)} {name : String} {view : Value → Option α}
  {given : Option α}

/-- What is given is what the view shows. -/
theorem Gives.bind_eq (h : Gives entries name view given) :
    (get? name entries).bind view = given := by
  cases hget : get? name entries with
  | none => exact (h.of_none hget).symm
  | some value =>
    obtain ⟨x, rfl, hx⟩ := h.of_some hget
    exact hx

/-- What a view shows of whatever stands under a name is given. -/
theorem Gives.of_exists (h : ∀ value, get? name entries = some value → ∃ x, view value = some x) :
    Gives entries name view ((get? name entries).bind view) := by
  unfold Gives
  cases hget : get? name entries with
  | none => rfl
  | some value =>
    obtain ⟨x, hx⟩ := h value hget
    rw [Option.map_some, Option.bind_some, hx]
    rfl

/-- Only one thing is given under a name. -/
theorem Gives.unique {other : Option α} (h : Gives entries name view given)
    (hother : Gives entries name view other) : given = other :=
  h.bind_eq.symm.trans hother.bind_eq

variable {below above : List (String × Value)}

/-- What shows in merged entries shows above, if anything stands there under the name. -/
theorem Gives.above_of_merge (hview : ∀ origin entries, view (.dict origin entries) = none)
    (hordered : Ordered above) (h : Gives (Value.mergeEntries below above) name view given)
    {value : Value} (hget : get? name above = some value) :
    ∃ x, given = some x ∧ view value = some x := by
  rw [Gives, Value.get?_mergeEntries hordered, hget, Option.map_some, Option.some_or,
    Option.map_some] at h
  obtain ⟨x, hx, hshown⟩ := Option.map_eq_some_iff.1 h.symm
  refine ⟨x, hx, ?_⟩
  cases hbelow : get? name below with
  | none =>
    rw [hbelow] at hshown
    exact hshown.symm
  | some other =>
    rw [hbelow] at hshown
    cases value with
    | dict origin upper =>
      -- A dictionary stays one, over whatever it is set.
      cases other <;> cases hshown.trans (hview _ _)
    | scalar | list => cases other <;> exact hshown.symm

/-- **What shows in merged entries is what shows above**, and else what shows below. -/
theorem Gives.eq_of_merge (hview : ∀ origin entries, view (.dict origin entries) = none)
    (hordered : Ordered above) (h : Gives (Value.mergeEntries below above) name view given)
    {lower : Option α} (hbelow : Gives below name view given → given = lower) :
    given = ((get? name above).bind view).or lower := by
  cases hget : get? name above with
  | none =>
    rw [Gives, Value.get?_mergeEntries hordered, hget] at h
    exact hbelow h
  | some value =>
    obtain ⟨x, rfl, hx⟩ := h.above_of_merge hview hordered hget
    rw [Option.bind_some, hx, Option.some_or]

end Shown

/-- The entries are in order, and so are the client properties among them. -/
structure Tidy (entries : List (String × Value)) : Prop where
  ordered : Ordered entries
  properties : ∀ properties, properties? entries = some properties → Ordered properties

/-- The client properties are the entries of what stands under their name. -/
theorem properties?_of_get? {entries : List (String × Value)} {value : Value}
    (h : get? "kafka" entries = some value) : properties? entries = value.entries? := by
  rw [properties?, h]

/-- Merging keeps the order, also among the client properties. -/
theorem Tidy.merge {below above : List (String × Value)} (hbelow : Tidy below)
    (habove : Tidy above) : Tidy (Value.mergeEntries below above) where
  ordered := Value.ordered_mergeEntries above hbelow.ordered
  properties := fun properties h => by
    rw [properties?, Value.get?_mergeEntries habove.ordered] at h
    cases hupper : get? "kafka" above with
    | none =>
      rw [hupper] at h
      exact hbelow.properties _ h
    | some value =>
      have hvalue (h : value.entries? = some properties) : Ordered properties :=
        habove.properties _ ((properties?_of_get? hupper).trans h)
      rw [hupper] at h
      cases hlower : get? "kafka" below with
      | none =>
        rw [hlower] at h
        exact hvalue h
      | some other =>
        rw [hlower] at h
        cases value with
        | scalar | list => cases other <;> cases h
        | dict origin upper =>
          cases other with
          | scalar | list => exact hvalue h
          | dict _ lower =>
            rw [← Option.some.inj h]
            exact Value.ordered_mergeEntries upper
              (hbelow.properties lower (properties?_of_get? hlower))

/-- The client properties of merged entries are the merged client properties. -/
theorem properties?_mergeEntries {below above lower upper : List (String × Value)}
    (htidy : Tidy above) (habove : properties? above = some upper)
    (hbelow : properties? below = some lower) :
    properties? (Value.mergeEntries below above) = some (Value.mergeEntries lower upper) := by
  have hupper := htidy.properties upper habove
  rw [properties?] at habove hbelow
  rw [properties?, Value.get?_mergeEntries htidy.ordered]
  -- Two dictionaries are merged key by key, and one of them alone is what it is.
  split at habove
  · rename_i hget
    obtain rfl : [] = upper := Option.some.inj habove
    rw [hget]
    exact hbelow
  · rename_i value hget
    cases value with
    | scalar | list => cases habove
    | dict origin entries =>
      obtain rfl : entries = upper := Option.some.inj habove
      rw [hget]
      split at hbelow
      · rename_i hget'
        obtain rfl : [] = lower := Option.some.inj hbelow
        rw [hget', Value.mergeEntries_nil hupper]
        rfl
      · rename_i value hget'
        cases value with
        | scalar | list => cases hbelow
        | dict origin others =>
          obtain rfl : others = lower := Option.some.inj hbelow
          rw [hget']
          rfl

/-- Entries that have client properties after merging have some above, or nothing there in their
place. -/
theorem exists_properties_of_merge {below above properties : List (String × Value)}
    (hordered : Ordered above)
    (h : properties? (Value.mergeEntries below above) = some properties) :
    ∃ upper, properties? above = some upper := by
  cases habove : get? "kafka" above with
  | none => exact ⟨[], by rw [properties?, habove]⟩
  | some value =>
    rw [properties?, Value.get?_mergeEntries hordered, habove] at h
    rw [properties?_of_get? habove]
    cases value with
    | dict origin entries => exact ⟨entries, rfl⟩
    | scalar | list =>
      -- Such a value stays as it is, and it has no entries.
      cases hbelow : get? "kafka" below with
      | none =>
        rw [hbelow] at h
        cases h
      | some other =>
        rw [hbelow] at h
        cases other <;> cases h

/-- **Merged entries write the upper layer over the lower one.** -/
theorem Writes.merge {below above : List (String × Value)} {lower upper : SettingsLayer}
    (htidy : Tidy above) (habove : Writes above upper) (hbelow : Writes below lower) :
    Writes (Value.mergeEntries below above) (upper.atop lower) where
  brokers := .merge (fun _ _ => rfl) htidy.ordered habove.brokers hbelow.brokers
  groupId := .merge (fun _ _ => rfl) htidy.ordered habove.groupId hbelow.groupId
  consumerTopics :=
    .merge (fun _ _ => rfl) htidy.ordered habove.consumerTopics hbelow.consumerTopics
  producerTopic := .merge (fun _ _ => rfl) htidy.ordered habove.producerTopic hbelow.producerTopic
  partition :=
    .merge (fun _ _ => rfl) htidy.ordered habove.partition hbelow.partition
  offset := .merge (fun _ _ => rfl) htidy.ordered habove.offset hbelow.offset
  consumerTimeoutMs :=
    .merge (fun _ _ => rfl) htidy.ordered habove.consumerTimeoutMs hbelow.consumerTimeoutMs
  exitOnEof := .merge (fun _ _ => rfl) htidy.ordered habove.exitOnEof hbelow.exitOnEof
  partitionCount :=
    .merge (fun _ _ => rfl) htidy.ordered habove.partitionCount hbelow.partitionCount
  debug := .merge (fun _ _ => rfl) htidy.ordered habove.debug hbelow.debug
  skipBytes :=
    .merge (fun _ _ => rfl) htidy.ordered habove.skipBytes hbelow.skipBytes
  kafka := by
    obtain ⟨first, hfirst, hgives⟩ := habove.kafka
    obtain ⟨second, hsecond, hgives'⟩ := hbelow.kafka
    refine ⟨_, properties?_mergeEntries htidy hfirst hsecond, fun key => ?_⟩
    rw [atop, PropertyMap.get?_union]
    exact .merge (fun _ _ => rfl) (htidy.properties _ hfirst) (hgives key) (hgives' key)

/-- The entries of a layer are in order, and so are its client properties. -/
theorem tidy_toEntries (layer : SettingsLayer) (origin : Origin) :
    Tidy (layer.toEntries origin) where
  ordered := Dictionary.ordered_ofList _
  properties := fun properties h => by
    by_cases hempty : layer.kafka.entries = []
    · rw [properties?, get?_kafka_toEntries, if_pos hempty] at h
      exact Option.some.inj h ▸ .nil
    · rw [properties?, get?_kafka_toEntries, if_neg hempty] at h
      exact Option.some.inj h ▸ List.pairwise_map.2 layer.kafka.ordered

/-- A layer over the empty one is that layer. -/
@[simp] theorem atop_empty (layer : SettingsLayer) : layer.atop {} = layer := by
  cases layer
  simp [atop]

/-- The empty layer hides nothing. -/
@[simp] theorem empty_atop (layer : SettingsLayer) : atop {} layer = layer := by
  cases layer
  simp [atop]
  rfl

end SettingsLayer
end OctetRelay
