/-
# Reading written layers

Each setting that a dictionary gives is read as it is written, and one that it
does not give is left to its default (`readUnder_of_writes`); so reading the
dictionary of a layer gives the layer's settings over the defaults
(`ofEntries_of_writes`).

Conversely, what is read was written so (`gives_of_readUnder_kafka` for the
client properties, which are read together).

The one thing that can be written and is not read is an explicit offset below
zero: it ends the reading (`ofEntries_of_isNegative`), and whatever else is in a
dictionary, no settings with one come out of it (`isNegative_of_ofEntries`).

Source: `PipelineConfig` as it is read in `from_layers`; `SPEC_FULL.md` 3, Pipeline
Configuration, and 11, the merged sources.
-/

import OctetRelay.Proofs.Fields
import OctetRelay.Proofs.WrittenLayer

namespace OctetRelay
namespace Settings

open Dictionary (get? Ordered)
open SettingsLayer (Gives Writes Tidy properties?)

/-- **A text is read just from a value that is it.** -/
theorem readText_eq_ok_iff {value : Value} {text : String} :
    readText value = .ok text ↔ value.text? = some text := by
  unfold readText Value.text?
  split
  · rw [Except.ok.injEq, Option.some.injEq]
  · simp [wrongKind]

/-- **A flag is read just from a value that is it.** -/
theorem readFlag_eq_ok_iff {value : Value} {flag : Bool} :
    readFlag value = .ok flag ↔ value.flag? = some flag := by
  unfold readFlag Value.flag?
  split
  · rw [Except.ok.injEq, Option.some.injEq]
  · simp [wrongKind]

/-- A whole number of the range is read. -/
theorem readNumber_of_integer? {range : Text.IntegerRange} {value : Value} {number : Int}
    (h : value.integer? = some number) (hrange : range.contains number = true)
    (expected : Expected) : readNumber range expected value = .ok number := by
  unfold Value.integer? at h
  split at h
  · obtain rfl := Option.some.inj h
    exact if_pos hrange
  · obtain rfl := Option.some.inj h
    exact if_pos hrange
  · cases h

/-- A number of the range is read. -/
theorem readWord_of_number? {α : Type} {range : Text.IntegerRange} {word : Int → α} {value : Value}
    {x : α} (h : value.number? range word = some x) (expected : Expected) :
    readWord range expected word value = .ok x := by
  obtain ⟨n, hn, hx⟩ := Option.bind_eq_some_iff.1 h
  split at hx
  · rename_i hrange
    obtain rfl := Option.some.inj hx
    rw [readWord, readNumber_of_integer? hn hrange]
    rfl
  · cases hx

/-- The texts that a list is made of are read one by one. -/
theorem readTexts_of_mapM {items : List Value} {texts : List String}
    (h : items.mapM Value.text? = some texts) (index : Nat) :
    readTexts index items = .ok texts := by
  induction items generalizing texts index with
  | nil => exact congrArg Except.ok (Option.some.inj h)
  | cons value rest ih =>
    simp only [List.mapM_cons, Option.bind_eq_bind, Option.bind_eq_some_iff] at h
    obtain ⟨text, htext, others, hothers, htexts⟩ := h
    rw [readTexts, readText_eq_ok_iff.2 htext, ih hothers, ← Option.some.inj htexts]
    rfl

/-- A list of texts is read as it. -/
theorem readTopics_of_texts? {value : Value} {texts : List String}
    (h : value.texts? = some texts) : readTopics value = .ok texts := by
  unfold Value.texts? at h
  split at h
  · exact readTexts_of_mapM h 0
  · cases h

/-- An offset without a sign is none below zero. -/
theorem isNegative_of_lt {number : Nat} (h : number < Nat.pow 2 63) :
    StartOffset.isNegative (.explicit (.ofInt number)) = false := by
  rw [StartOffset.isNegative_ofInt (Text.IntegerRange.contains_signed64_natCast.2 h),
    decide_eq_false_iff_not]
  omega

/-- A starting position is read unless it is an explicit offset below zero. -/
theorem readOffset_of_startOffset? {value : Value} {offset : StartOffset}
    (h : value.startOffset? = some offset) :
    ∃ fault, readOffset value =
      if offset.isNegative then .error { fault, origin := value.origin } else .ok offset := by
  unfold Value.startOffset? at h
  split at h
  · rename_i text
    refine ⟨.malformed { key := "offset", value := Text.trim text, fault := .negativeOffset }, ?_⟩
    rw [readOffset, StartOffset.read_of_denoted? h]
    split <;> rfl
  · rename_i number
    split at h
    · rename_i hsmall
      obtain rfl := Option.some.inj h
      refine ⟨.negativeOffset, ?_⟩
      rw [isNegative_of_lt hsmall]
      exact if_pos hsmall
    · cases h
  · rename_i number
    obtain rfl := Option.some.inj h
    refine ⟨.negativeOffset, ?_⟩
    simp [readOffset, StartOffset.isNegative, Value.origin]
  · cases h

/-- A value that denotes no starting position is not read as one. -/
theorem exists_error_of_startOffset? {value : Value} (h : value.startOffset? = none) :
    ∃ misfit, readOffset value = .error misfit := by
  unfold Value.startOffset? at h
  split at h
  · obtain ⟨setting, hread⟩ := StartOffset.exists_error_of_denoted? h
    exact ⟨_, by rw [readOffset, hread]; rfl⟩
  · split at h
    · cases h
    · rename_i hlarge
      exact ⟨_, if_neg hlarge⟩
  · cases h
  · unfold readOffset
    simp only
    exact ⟨_, rfl⟩

/-- **A value is read as the starting position it denotes**, unless that is an explicit offset below
zero. -/
theorem toOption_readOffset (value : Value) :
    (readOffset value).toOption = value.startOffset?.filter fun offset => !offset.isNegative := by
  cases hoffset : value.startOffset? with
  | none =>
    obtain ⟨misfit, hread⟩ := exists_error_of_startOffset? hoffset
    rw [hread]
    rfl
  | some offset =>
    obtain ⟨fault, hread⟩ := readOffset_of_startOffset? hoffset
    rw [hread]
    cases hneg : offset.isNegative <;> simp [Except.toOption, Option.filter, hneg]

/-- A value that is there is read as one that may be absent. -/
theorem readOptional_of_view {α β : Type} {read : Value → Except Misfit α}
    {view : Value → Option β} {value : Value} {b : β}
    (habsent : ∀ origin, view (.scalar origin .absent) = none) (h : view value = some b) :
    readOptional read value = (read value).map some := by
  unfold readOptional
  split
  · rw [habsent] at h
    cases h
  · rfl

/-- **A setting that is given is read, and one that is not is left to its default.** -/
theorem readUnder_of_gives {β : Type} {entries : List (String × Value)} (field : Field)
    {view : Value → Option β} {given : Option β} (content : Option β → field.Content)
    (hgives : Gives entries field.name view given)
    (hread : ∀ value b, view value = some b → given = some b →
      field.read value = .ok (content (some b))) :
    readUnder entries field (content none) = .ok (content given) := by
  cases hget : get? field.name entries with
  | none => rw [readUnder_of_none field hget, hgives.of_none hget]
  | some value =>
    obtain ⟨b, rfl, hb⟩ := hgives.of_some hget
    rw [readUnder_of_some field hget, hread value b hb rfl]
    rfl

/-- Properties that are given as texts are read into the ones that are there. -/
theorem readEntries_of_gives {entries : List (String × Value)} (hordered : Ordered entries)
    {given : String → Option String} (hgives : ∀ key, Gives entries key Value.text? (given key))
    (map : PropertyMap) :
    ∃ read, readEntries map entries = .ok read ∧
      ∀ key, read.get? key = (given key).or (map.get? key) := by
  induction entries generalizing given map with
  | nil =>
    refine ⟨map, rfl, fun key => ?_⟩
    rw [(hgives key).of_none rfl, Option.none_or]
  | cons pair rest ih =>
    obtain ⟨k, value⟩ := pair
    obtain ⟨text, hgiven, htext⟩ := (hgives k).of_some (Dictionary.get?_cons_self (k, value) rest)
    -- In a dictionary in order the first key does not come again.
    have hrest (key : String) :
        Gives rest key Value.text? (if k = key then none else given key) := by
      have hkey := hgives key
      rw [Gives, get?] at hkey
      split
      · rename_i heq
        rw [Gives, ← heq, Dictionary.get?_rest_eq_none hordered]
        rfl
      · rename_i hne
        rwa [if_neg hne] at hkey
    obtain ⟨read, hread, hget⟩ := ih hordered.tail hrest (map.insert k text)
    refine ⟨read, ?_, fun key => ?_⟩
    · rw [readEntries, readText_eq_ok_iff.2 htext]
      exact hread
    · rw [hget, PropertyMap.get?_insert]
      split
      · rename_i heq
        rw [← heq, hgiven, Option.none_or, Option.some_or]
      · rfl

/-- A starting position that may be absent is read unless it is an explicit offset below zero. -/
theorem readOptional_of_startOffset? {value : Value} {offset : StartOffset}
    (h : value.startOffset? = some offset) (hpos : offset.isNegative = false) :
    readOptional readOffset value = .ok (some offset) := by
  obtain ⟨fault, hread⟩ := readOffset_of_startOffset? h
  rw [readOptional_of_view (fun _ => rfl) h, hread, hpos]
  rfl

/-- Client properties are read just from entries in their place, or from none. -/
theorem readUnder_kafka_eq_ok_iff {entries : List (String × Value)} {map : PropertyMap} :
    readUnder entries .kafka .empty = .ok map ↔
      ∃ properties, properties? entries = some properties ∧
        readEntries .empty properties = .ok map := by
  cases hget : get? "kafka" entries with
  | none =>
    rw [readUnder_of_none .kafka hget .empty, SettingsLayer.properties?, hget]
    constructor
    · exact fun h => ⟨[], rfl, h⟩
    · rintro ⟨others, hothers, hread⟩
      obtain rfl := Option.some.inj hothers
      exact hread
  | some value =>
    rw [readUnder_of_some .kafka hget .empty, SettingsLayer.properties?_of_get? hget]
    cases value with
    | scalar | list =>
      constructor
      · intro h
        cases h
      · rintro ⟨properties, hproperties, -⟩
        cases hproperties
    | dict origin properties =>
      constructor
      · exact fun h => ⟨properties, rfl, ok_of_mapError h⟩
      · rintro ⟨others, hothers, hread⟩
        obtain rfl := Option.some.inj hothers
        exact congrArg (Except.mapError _) hread

section Written

variable {entries : List (String × Value)} {layer : SettingsLayer}

/-- **The client properties that are written are read.** -/
theorem readUnder_kafka (htidy : Tidy entries) (hwrites : Writes entries layer) :
    readUnder entries .kafka .empty = .ok layer.kafka := by
  obtain ⟨properties, hproperties, hgives⟩ := hwrites.kafka
  have hordered := htidy.properties properties hproperties
  obtain ⟨read, hread, hget⟩ := readEntries_of_gives hordered hgives .empty
  obtain rfl : read = layer.kafka := PropertyMap.ext_get? fun key => by
    rw [hget, PropertyMap.get?_empty, Option.or_none]
  exact readUnder_kafka_eq_ok_iff.2 ⟨properties, hproperties, hread⟩

/-- **Every setting that is written is read**, but for an explicit offset below zero. -/
theorem readUnder_of_writes (htidy : Tidy entries) (h : Writes entries layer) :
    ∀ field ∈ Field.byName,
      (field.name = Field.offset.name → layer.offset.any StartOffset.isNegative = false) →
      readUnder entries field (field.stored {}) = .ok (field.stored layer.settings) := by
  -- Each setting is read as its view shows it, and where nothing shows the default is left.
  apply Field.forall_mem_byName
  case brokers =>
    exact fun _ => readUnder_of_gives .brokers (·.getD _) h.brokers fun _ _ hvalue _ =>
      readText_eq_ok_iff.2 hvalue
  case groupId =>
    exact fun _ => readUnder_of_gives .groupId (·.getD _) h.groupId fun _ _ hvalue _ =>
      readText_eq_ok_iff.2 hvalue
  case consumerTopics =>
    exact fun _ => readUnder_of_gives .consumerTopics (·.getD _) h.consumerTopics
      fun _ _ hvalue _ => readTopics_of_texts? hvalue
  case producerTopic =>
    exact fun _ => readUnder_of_gives .producerTopic (·.getD _) h.producerTopic
      fun _ _ hvalue _ => readText_eq_ok_iff.2 hvalue
  case partition =>
    refine fun _ => readUnder_of_gives .partition (·.or none) h.partition fun _ _ hvalue _ => ?_
    change readOptional _ _ = _
    rw [readOptional_of_view (fun _ => rfl) hvalue, readWord_of_number? hvalue]
    rfl
  case offset =>
    refine fun hpos => readUnder_of_gives .offset (·.or none) h.offset
      fun _ _ hvalue hgiven => readOptional_of_startOffset? hvalue ?_
    simpa [hgiven] using hpos rfl
  case consumerTimeoutMs =>
    exact fun _ => readUnder_of_gives .consumerTimeoutMs (·.getD _) h.consumerTimeoutMs
      fun _ _ hvalue _ => readWord_of_number? hvalue .unsigned64
  case exitOnEof =>
    exact fun _ => readUnder_of_gives .exitOnEof (·.getD _) h.exitOnEof fun _ _ hvalue _ =>
      readFlag_eq_ok_iff.2 hvalue
  case partitionCount =>
    exact fun _ => readUnder_of_gives .partitionCount (·.getD _) h.partitionCount
      fun _ _ hvalue _ => readWord_of_number? hvalue .unsigned32
  case debug =>
    refine fun _ => readUnder_of_gives .debug (·.or none) h.debug fun _ _ hvalue _ => ?_
    change readOptional _ _ = _
    rw [readOptional_of_view (fun _ => rfl) hvalue, readText_eq_ok_iff.2 hvalue]
    rfl
  case skipBytes =>
    exact fun _ => readUnder_of_gives .skipBytes (·.getD _) h.skipBytes
      fun _ _ hvalue _ => readWord_of_number? hvalue .size
  case kafka =>
    intro _
    change _ = Except.ok (PropertyMap.empty.union layer.kafka)
    rw [PropertyMap.empty_union]
    exact readUnder_kafka htidy h

/-- **Reading gives what is written, and else the defaults.** -/
theorem ofEntries_of_writes (htidy : Tidy entries) (h : Writes entries layer)
    (hpos : layer.offset.any StartOffset.isNegative = false) :
    ofEntries entries = .ok layer.settings :=
  ofEntries_eq_ok_iff.2 fun field hfield =>
    readUnder_of_writes htidy h field hfield fun _ => hpos

/-- **A written offset below zero ends the reading.** -/
theorem ofEntries_of_isNegative (htidy : Tidy entries) (h : Writes entries layer)
    (hneg : layer.offset.any StartOffset.isNegative = true) :
    ∃ misfit : Misfit, misfit.path = ["offset"] ∧ ofEntries entries = .error misfit := by
  obtain ⟨offset, hoffset, hnegative⟩ := (Option.any_eq_true _ _).1 hneg
  have hgives := h.offset
  rw [Gives, hoffset] at hgives
  obtain ⟨value, hget, hvalue⟩ := Option.map_eq_some_iff.1 hgives
  obtain ⟨fault, hread⟩ := readOffset_of_startOffset? hvalue
  let misfit : Misfit := { fault, origin := value.origin, path := ["offset"] }
  have hrefused : readUnder entries .offset none = .error misfit := by
    have hoptional : readOptional readOffset value = .error { fault, origin := value.origin } := by
      rw [readOptional_of_view (fun _ => rfl) hvalue, hread, if_pos hnegative]
      rfl
    rw [readUnder_of_some .offset hget none]
    exact congrArg (Except.mapError _) hoptional
  have hmem : Field.offset ∈ Field.byName := by simp [Field.byName]
  refine ⟨misfit, rfl, ?_⟩
  rw [ofEntries_of_others hmem fun other hother hname =>
    readUnder_of_writes htidy h other hother fun heq => absurd heq hname]
  exact congrArg (Except.map _) hrefused

end Written

/-! ### What is read was written -/

section Read

variable {entries : List (String × Value)}

/-- Properties that are read were all given as texts. -/
theorem exists_text_of_readEntries {map read : PropertyMap}
    (h : readEntries map entries = .ok read) {key : String} {value : Value}
    (hget : get? key entries = some value) : ∃ text, value.text? = some text := by
  induction entries generalizing map with
  | nil => cases hget
  | cons pair rest ih =>
    rw [readEntries] at h
    obtain ⟨text, htext, hrest⟩ := ok_of_bind h
    rw [get?] at hget
    split at hget
    · obtain rfl := Option.some.inj hget
      exact ⟨text, readText_eq_ok_iff.1 (ok_of_mapError htext)⟩
    · exact ih hrest hget

/-- **The client properties that are read are the ones that were written.** -/
theorem gives_of_readUnder_kafka (htidy : Tidy entries) {map : PropertyMap}
    (h : readUnder entries .kafka .empty = .ok map) :
    ∃ properties, properties? entries = some properties ∧
      ∀ key, Gives properties key Value.text? (map.get? key) := by
  obtain ⟨properties, hproperties, hread⟩ := readUnder_kafka_eq_ok_iff.1 h
  have hgives (key : String) :
      Gives properties key Value.text? ((get? key properties).bind Value.text?) :=
    .of_exists fun _ hget => exists_text_of_readEntries hread hget
  obtain ⟨read, hread', hget⟩ :=
    readEntries_of_gives (htidy.properties properties hproperties) hgives .empty
  obtain rfl : read = map := Except.ok.inj (hread'.symm.trans hread)
  refine ⟨properties, hproperties, fun key => ?_⟩
  rw [hget, PropertyMap.get?_empty, Option.or_none]
  exact hgives key

/-- **The flag that is read is the one that was written**, and else the default. -/
theorem gives_of_readUnder_exitOnEof {default flag : Bool}
    (h : readUnder entries .exitOnEof default = .ok flag) :
    ∃ given, Gives entries "exit_on_eof" Value.flag? given ∧ flag = given.getD default := by
  cases hget : get? "exit_on_eof" entries with
  | none =>
    rw [readUnder_of_none .exitOnEof hget default] at h
    refine ⟨none, ?_, (Except.ok.inj h).symm⟩
    rw [Gives, hget]
    rfl
  | some value =>
    rw [readUnder_of_some .exitOnEof hget default] at h
    refine ⟨some flag, ?_, rfl⟩
    rw [Gives, hget, Option.map_some, readFlag_eq_ok_iff.1 (ok_of_mapError h)]
    rfl

end Read

/-! ### No offset below zero is read -/

/-- A starting position that is read is no explicit offset below zero. -/
theorem isNegative_of_readOffset {value : Value} {offset : StartOffset}
    (h : readOffset value = .ok offset) : offset.isNegative = false := by
  have hread := toOption_readOffset value
  rw [h] at hread
  have hpos := (Option.filter_eq_some_iff.1 hread.symm).2
  simpa using hpos

/-- The same where it may be absent. -/
theorem isNegative_of_readOptional {value : Value} {offset : Option StartOffset}
    (h : readOptional readOffset value = .ok offset) :
    offset.any StartOffset.isNegative = false := by
  unfold readOptional at h
  split at h
  · exact Except.ok.inj h ▸ rfl
  · obtain ⟨offset, hread, rfl⟩ := ok_of_map h
    exact isNegative_of_readOffset hread

/-- **Settings that are read do not start at an explicit offset below zero.** -/
theorem isNegative_of_ofEntries {entries : List (String × Value)} {settings : Settings}
    (h : ofEntries entries = .ok settings) :
    settings.offset.any StartOffset.isNegative = false := by
  have hmem : Field.offset ∈ Field.byName := by simp [Field.byName]
  have hread := ofEntries_eq_ok_iff.1 h .offset hmem
  cases hget : get? Field.offset.name entries with
  | none =>
    rw [readUnder_of_none .offset hget] at hread
    have hnone : none = settings.offset := Except.ok.inj hread
    rw [← hnone]
    rfl
  | some value =>
    rw [readUnder_of_some .offset hget] at hread
    exact isNegative_of_readOptional (ok_of_mapError hread)

end Settings
end OctetRelay
