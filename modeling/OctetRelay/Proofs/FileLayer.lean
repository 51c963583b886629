/-
# The layer of a file

Entries of a file are put into its layer one by one, and each of them is looked
at by its key.  Seen from the layer it is the other way round: each field looks
at the entries whose key it takes, and the last of them counts.

| field | keys | value |
| --- | --- | --- |
| topics and clients' settings | one | the text |
| numbers | one of `numericKeys` | the number, or the first refusal ends it all |
| brokers | either of two (`namesBrokers`) | the text |
| client properties | all that `isForwarded` | the text, key by key |

`put` is the second view of one entry, and `route_eq` says that it is the first
one.  A refusal does not depend on what comes later, so a file is refused as its
first malformed entry is (`routeAll_eq`), and otherwise every field is told by
one lemma about rows of entries (`field_foldl_put`).

Source: `from_properties` and `parse_number`; `SPEC_FULL.md` 11, the table of
keys.
-/

import OctetRelay.Proofs.Lookups
import OctetRelay.Proofs.OffsetText
import OctetRelay.Settings.Layer

namespace OctetRelay

open Dictionary (last?)

namespace SettingsLayer

/-- Whether a key names the brokers. -/
def namesBrokers (key : String) : Bool :=
  key == "bootstrap.servers" || key == "metadata.broker.list"

/-- Whether a key looks like one of the program's own. -/
def isOwn (key : String) : Bool := "asn1.".toList.isPrefixOf key.toList

/-- Whether a key of a file is one that only the clients know. -/
def isForwarded (key : String) : Bool :=
  !(isOwn key || namesBrokers key || key == "group.id" || key == "debug")

/-- The keys whose values are numbers, and the range of each. -/
def numericKeys : List (String × Text.IntegerRange) :=
  [(Settings.skipKey, .unsigned64), (Settings.timeoutKey, .unsigned64),
   (Settings.partitionKey, .signed32)]

/-- The refusal of an entry whose value is no number of the range of its key. -/
def malformed? (entry : String × String) : Option MalformedSetting :=
  (Dictionary.get? entry.1 numericKeys).bind fun range =>
    match Text.readInteger range entry.2.toList with
    | .ok _ => none
    | .error fault => some { key := entry.1, value := entry.2, fault := .integer fault }

/-- The number that a text spells in a range. -/
def number? (range : Text.IntegerRange) (text : String) : Option Int :=
  (Text.readInteger range text.toList).toOption

/-- A layer after one more entry, field by field. -/
def put (layer : SettingsLayer) (entry : String × String) : SettingsLayer where
  brokers := if namesBrokers entry.1 then some entry.2 else layer.brokers
  groupId := if entry.1 == "group.id" then some entry.2 else layer.groupId
  consumerTopics :=
    if entry.1 == Settings.consumerTopicKey then some [entry.2] else layer.consumerTopics
  producerTopic :=
    if entry.1 == Settings.producerTopicKey then some entry.2 else layer.producerTopic
  partition :=
    if entry.1 == Settings.partitionKey then (number? .signed32 entry.2).map .ofInt
    else layer.partition
  offset := layer.offset
  consumerTimeoutMs :=
    if entry.1 == Settings.timeoutKey then (number? .unsigned64 entry.2).map (.ofNat ·.toNat)
    else layer.consumerTimeoutMs
  exitOnEof := layer.exitOnEof
  partitionCount := layer.partitionCount
  debug := if entry.1 == "debug" then some entry.2 else layer.debug
  skipBytes :=
    if entry.1 == Settings.skipKey then (number? .unsigned64 entry.2).map (.ofNat ·.toNat)
    else layer.skipBytes
  kafka := if isForwarded entry.1 then layer.kafka.insert entry.1 entry.2 else layer.kafka

/-- A key like the program's own is no other key. -/
theorem ne_of_isOwn {key other : String} (h : isOwn key = true) (hother : isOwn other = false) :
    key ≠ other := fun heq => by
  rw [heq, hother] at h
  cases h

/-- What an entry does under each of the program's own keys. -/
theorem put_own (layer : SettingsLayer) (value : String) :
    layer.put (Settings.consumerTopicKey, value) = { layer with consumerTopics := some [value] } ∧
      layer.put (Settings.producerTopicKey, value) = { layer with producerTopic := some value } ∧
      layer.put (Settings.partitionKey, value) =
        { layer with partition := (number? .signed32 value).map .ofInt } ∧
      layer.put (Settings.timeoutKey, value) =
        { layer with consumerTimeoutMs := (number? .unsigned64 value).map (.ofNat ·.toNat) } ∧
      layer.put (Settings.skipKey, value) =
        { layer with skipBytes := (number? .unsigned64 value).map (.ofNat ·.toNat) } := by
  simp [put, namesBrokers, isForwarded, isOwn, Settings.consumerTopicKey,
    Settings.producerTopicKey, Settings.partitionKey, Settings.timeoutKey, Settings.skipKey]

/-- Only a numeric key has malformed values. -/
theorem malformed?_of_not_numeric {key : String} (h : Dictionary.get? key numericKeys = none)
    (value : String) : malformed? (key, value) = none := by
  rw [malformed?, h]
  rfl

/-- A number that is read into a field is there just if the entry is not malformed. -/
theorem map_readNumber {key value : String} {range : Text.IntegerRange} {field : Int → SettingsLayer}
    {after : SettingsLayer} (hrange : Dictionary.get? key numericKeys = some range)
    (hafter : ∀ n, number? range value = some n → field n = after) :
    (readNumber range key value).map field =
      match malformed? (key, value) with
      | some setting => .error setting
      | none => .ok after := by
  unfold readNumber malformed?
  rw [hrange, Option.bind_some]
  cases hread : Text.readInteger range value.toList with
  | error fault => rfl
  | ok n =>
    have hnumber : number? range value = some n := by rw [number?, hread]; rfl
    exact congrArg Except.ok (hafter n hnumber)

/-- **An entry does the same seen from its key and seen from the fields.** -/
theorem route_eq (layer : SettingsLayer) (key value : String) :
    route layer key value =
      match malformed? (key, value) with
      | some setting => .error setting
      | none => .ok (layer.put (key, value)) := by
  obtain ⟨hconsumer, hproducer, hpartition, htimeout, hskip⟩ := put_own layer value
  unfold route
  -- First the keys of the program, each of which decides alone.
  split
  · rename_i hkey
    subst hkey
    rw [malformed?_of_not_numeric rfl, hconsumer]
  split
  · rename_i hkey
    subst hkey
    rw [malformed?_of_not_numeric rfl, hproducer]
  split
  · rename_i hkey
    subst hkey
    refine map_readNumber rfl fun n hn => ?_
    rw [hpartition, hn]
    rfl
  split
  · rename_i hkey
    subst hkey
    refine map_readNumber rfl fun n hn => ?_
    rw [htimeout, hn]
    rfl
  split
  · rename_i hkey
    subst hkey
    refine map_readNumber rfl fun n hn => ?_
    rw [hskip, hn]
    rfl
  -- No other key is numeric, so from here on nothing is malformed.
  rename_i hconsumer hproducer hpartition htimeout hskip
  have hnumeric : Dictionary.get? key numericKeys = none := by
    simp [numericKeys, Dictionary.get?, Ne.symm hpartition, Ne.symm htimeout, Ne.symm hskip]
  rw [malformed?_of_not_numeric hnumeric]
  split
  · rename_i hkey
    rcases hkey with rfl | rfl <;> simp [put, namesBrokers, isForwarded, isOwn, *]
  split
  · rename_i hkey
    subst hkey
    simp [put, namesBrokers, isForwarded, isOwn, *]
  split
  · rename_i hkey
    subst hkey
    simp [put, namesBrokers, isForwarded, isOwn, *]
  rename_i hbrokers hgroupId hdebug
  obtain ⟨halias, hservers⟩ := not_or.1 hbrokers
  -- What is left is a key like the program's own, or one that only the clients know.
  have hunrecognised : isUnrecognised key = isOwn key := by
    simp [isUnrecognised, isOwn, hconsumer, hproducer, hpartition, htimeout, hskip]
  rw [hunrecognised]
  split
  · rename_i hown
    simp [put, namesBrokers, isForwarded, *]
  · rename_i hother
    simp [put, namesBrokers, isForwarded, *]

/-- **A file is refused as its first malformed entry is**, and otherwise all its entries are put into
the layer; those that no setting takes are logged, up to a refusal. -/
theorem routeAll_eq (layer : SettingsLayer) (entries : List (String × String)) :
    routeAll layer entries =
      { events := ((entries.takeWhile fun entry => (malformed? entry).isNone).filter
          (isUnrecognised ·.1)).map (.settingIgnored ·.1)
        result :=
          match entries.findSome? malformed? with
          | some setting => .error setting
          | none => .ok (entries.foldl put layer) } := by
  induction entries generalizing layer with
  | nil => rfl
  | cons entry rest ih =>
    obtain ⟨key, value⟩ := entry
    rw [routeAll, route_eq, List.findSome?_cons, List.takeWhile_cons]
    cases malformed? (key, value) with
    | some setting => rfl
    | none =>
      simp only [ih, Option.isNone_none, if_true, List.foldl_cons]
      by_cases hkey : isUnrecognised key = true
      · simp [hkey]
      · simp [hkey]

/-- **The last entry that a field takes decides it.** -/
theorem field_foldl_put {α : Type} (field : SettingsLayer → Option α) (wanted : String → Bool)
    (read : String → Option α)
    (hput : ∀ layer entry, field (put layer entry) =
      if wanted entry.1 then read entry.2 else field layer)
    (layer : SettingsLayer) (entries : List (String × String)) :
    field (entries.foldl put layer) = ((last? wanted entries).map read).getD (field layer) := by
  induction entries generalizing layer with
  | nil => rfl
  | cons entry rest ih =>
    rw [List.foldl_cons, ih, last?, hput]
    cases last? wanted rest with
    | some value => rfl
    | none => cases wanted entry.1 <;> rfl

/-- A field that takes texts as they are has the last one. -/
theorem text_foldl_put (field : SettingsLayer → Option String) (wanted : String → Bool)
    (hput : ∀ layer entry, field (put layer entry) =
      if wanted entry.1 then some entry.2 else field layer)
    (layer : SettingsLayer) (entries : List (String × String)) :
    field (entries.foldl put layer) = (last? wanted entries).or (field layer) := by
  rw [field_foldl_put field wanted some hput]
  cases last? wanted entries <;> rfl

/-- A field that takes no entry stays as it is. -/
theorem foldl_put_of_untouched {α : Type} (field : SettingsLayer → Option α)
    (hput : ∀ layer entry, field (put layer entry) = field layer)
    (layer : SettingsLayer) (entries : List (String × String)) :
    field (entries.foldl put layer) = field layer := by
  rw [field_foldl_put field (fun _ => false) (fun _ => none) hput, Dictionary.last?_never]
  rfl

/-- What a key finds among the client properties after one more entry. -/
theorem get?_kafka_put (key : String) (layer : SettingsLayer) (entry : String × String) :
    (layer.put entry).kafka.get? key =
      if isForwarded key && entry.1 == key then some entry.2 else layer.kafka.get? key := by
  unfold put
  by_cases hkey : entry.1 = key
  · subst hkey
    cases isForwarded entry.1 <;> simp
  · cases isForwarded entry.1 <;> simp [hkey]

/-- What a key finds among the client properties in the end. -/
theorem get?_kafka_foldl_put (key : String) (layer : SettingsLayer)
    (entries : List (String × String)) :
    (entries.foldl put layer).kafka.get? key =
      (if isForwarded key then last? (· == key) entries else none).or
        (layer.kafka.get? key) := by
  rw [text_foldl_put (·.kafka.get? key) (fun other => isForwarded key && other == key)
    (get?_kafka_put key)]
  cases isForwarded key with
  | true => rfl
  | false => exact congrArg (Option.or · _) (Dictionary.last?_never entries)

/-- A setting that tells why an entry cannot be read: the key and the value of the entry, and what
is wrong with the value as a number of the range of the key. -/
def Refuses (entry : String × String) (setting : MalformedSetting) : Prop :=
  ∃ range fault, (entry.1, range) ∈ numericKeys ∧
    Text.readInteger range entry.2.toList = .error fault ∧
    setting = { key := entry.1, value := entry.2, fault := .integer fault }

/-- An entry under a numeric key whose value is no number of its range. -/
def IsMalformed (entry : String × String) : Prop := ∃ setting, Refuses entry setting

/-- The numeric keys are in order, so each of them is found. -/
theorem ordered_numericKeys : Dictionary.Ordered numericKeys := by decide

/-- An entry is refused with the setting that it is refused for. -/
theorem malformed?_eq_some_iff {entry : String × String} {setting : MalformedSetting} :
    malformed? entry = some setting ↔ Refuses entry setting := by
  unfold malformed? Refuses
  simp only [← Dictionary.get?_eq_some_iff ordered_numericKeys]
  cases hrange : Dictionary.get? entry.1 numericKeys with
  | none => simp
  | some range =>
    rw [Option.bind_some]
    cases hread : Text.readInteger range entry.2.toList with
    | ok n => simp [hread]
    | error fault => simp [hread, eq_comm]

/-- An entry that is not refused is not malformed. -/
theorem malformed?_eq_none_iff {entry : String × String} :
    malformed? entry = none ↔ ¬ IsMalformed entry := by
  unfold IsMalformed
  simp only [← malformed?_eq_some_iff, Option.eq_none_iff_forall_ne_some, not_exists]

/-- A number field holds what the last value of its key spells, and nothing if there is none. -/
def HoldsNumber (entries : List (String × String)) (key : String) (range : Text.IntegerRange)
    (number : Option Int) : Prop :=
  (last? (· == key) entries).map (fun text => Text.readInteger range text.toList) =
    number.map .ok

/-- What the layer of a file holds: under each key that it knows the last value there, under each
that only the clients know the value that a look-up in the file finds, and nothing else. -/
structure HoldsFile (properties : Properties) (layer : SettingsLayer) : Prop where
  consumerTopics : layer.consumerTopics =
    (last? (· == Settings.consumerTopicKey) properties.entries).map ([·])
  producerTopic : layer.producerTopic =
    last? (· == Settings.producerTopicKey) properties.entries
  partition : HoldsNumber properties.entries Settings.partitionKey .signed32
    (layer.partition.map (·.toInt))
  consumerTimeoutMs : HoldsNumber properties.entries Settings.timeoutKey .unsigned64
    (layer.consumerTimeoutMs.map (·.toNat))
  skipBytes : HoldsNumber properties.entries Settings.skipKey .unsigned64
    (layer.skipBytes.map (·.toNat))
  brokers : layer.brokers = last? namesBrokers properties.entries
  groupId : layer.groupId = last? (· == "group.id") properties.entries
  debug : layer.debug = last? (· == "debug") properties.entries
  kafka : ∀ key, layer.kafka.get? key = if isForwarded key then properties.get? key else none
  offset : layer.offset = none
  exitOnEof : layer.exitOnEof = none
  partitionCount : layer.partitionCount = none

/-- A number field of a file without malformed entries. -/
theorem holdsNumber {α : Type} {entries : List (String × String)} {key : String}
    {range : Text.IntegerRange} {field : Option α} {write : Int → α} {view : α → Int}
    (hwell : ∀ entry ∈ entries, malformed? entry = none)
    (hrange : Dictionary.get? key numericKeys = some range)
    (hfield : field = ((last? (· == key) entries).map fun text =>
      (number? range text).map write).getD none)
    (hview : ∀ n, range.contains n = true → view (write n) = n) :
    HoldsNumber entries key range (field.map view) := by
  unfold HoldsNumber
  rw [hfield]
  cases hlast : last? (· == key) entries with
  | none => rfl
  | some text =>
    obtain ⟨other, hmem, hother⟩ := Dictionary.mem_of_last? hlast
    obtain rfl : other = key := beq_iff_eq.1 hother
    have hentry := hwell _ hmem
    rw [malformed?, hrange, Option.bind_some] at hentry
    cases hread : Text.readInteger range text.toList with
    | error fault =>
      rw [hread] at hentry
      cases hentry
    | ok n =>
      have hn : view (write n) = n := hview n (Text.contains_of_readInteger hread)
      simp [number?, hread, hn, Except.toOption]

/-- A number of 32 bits with a sign survives in its word. -/
theorem toInt_ofInt_of_contains {n : Int} (h : Text.IntegerRange.signed32.contains n = true) :
    (Int32.ofInt n).toInt = n := by
  rw [Text.IntegerRange.contains_iff] at h
  exact Int32.toInt_ofInt_of_le h.1 (Int.lt_of_le_sub_one h.2)

/-- A number of 64 bits without a sign survives in its word. -/
theorem toNat_ofNat_of_contains {n : Int} (h : Text.IntegerRange.unsigned64.contains n = true) :
    ((UInt64.ofNat n.toNat).toNat : Int) = n := by
  rw [Text.IntegerRange.contains_iff] at h
  have hlow : 0 ≤ n := h.1
  have hhigh : n ≤ 18446744073709551615 := h.2
  rw [UInt64.toNat_ofNat_of_lt' (by simp only [UInt64.size]; omega)]
  omega

/-- **What the layer holds when all entries have been put into it.** -/
theorem holdsFile_foldl_put {properties : Properties}
    (hwell : ∀ entry ∈ properties.entries, malformed? entry = none) :
    HoldsFile properties (properties.entries.foldl put {}) where
  consumerTopics := by
    rw [field_foldl_put (·.consumerTopics) (· == Settings.consumerTopicKey) (some [·])
      fun _ _ => rfl]
    cases last? (· == Settings.consumerTopicKey) properties.entries <;> rfl
  producerTopic := (text_foldl_put (·.producerTopic) _ (fun _ _ => rfl) _ _).trans Option.or_none
  partition := holdsNumber hwell rfl
    (field_foldl_put (·.partition) _ _ (fun _ _ => rfl) _ _) fun _ => toInt_ofInt_of_contains
  consumerTimeoutMs := holdsNumber hwell rfl
    (field_foldl_put (·.consumerTimeoutMs) _ _ (fun _ _ => rfl) _ _)
    fun _ => toNat_ofNat_of_contains
  skipBytes := holdsNumber hwell rfl
    (field_foldl_put (·.skipBytes) _ _ (fun _ _ => rfl) _ _) fun _ => toNat_ofNat_of_contains
  brokers := (text_foldl_put (·.brokers) _ (fun _ _ => rfl) _ _).trans Option.or_none
  groupId := (text_foldl_put (·.groupId) _ (fun _ _ => rfl) _ _).trans Option.or_none
  debug := (text_foldl_put (·.debug) _ (fun _ _ => rfl) _ _).trans Option.or_none
  kafka := fun key => by
    rw [get?_kafka_foldl_put, properties.get?_eq_last?]
    exact Option.or_none
  offset := foldl_put_of_untouched (·.offset) (fun _ _ => rfl) _ _
  exitOnEof := foldl_put_of_untouched (·.exitOnEof) (fun _ _ => rfl) _ _
  partitionCount := foldl_put_of_untouched (·.partitionCount) (fun _ _ => rfl) _ _

/-- **The layer of a file holds what the file says, and nothing else.**  A file is refused just when
one of its entries is malformed, whether or not a later entry with the same key could be read, and
the refusal is that of the first such entry.  Otherwise the layer of the file holds all its settings
(`HoldsFile`). -/
theorem ofProperties_holdsFile (properties : Properties) :
    match (ofProperties properties).result with
    | .error setting =>
      ∃ front entry back, properties.entries = front ++ entry :: back ∧
        Refuses entry setting ∧ ∀ earlier ∈ front, ¬ IsMalformed earlier
    | .ok layer =>
      (∀ entry ∈ properties.entries, ¬ IsMalformed entry) ∧ HoldsFile properties layer := by
  rw [ofProperties, routeAll_eq]
  cases hfirst : properties.entries.findSome? malformed? with
  | some setting =>
    obtain ⟨front, entry, back, hentries, hentry, hfront⟩ := List.findSome?_eq_some_iff.1 hfirst
    refine ⟨front, entry, back, hentries, malformed?_eq_some_iff.1 hentry, ?_⟩
    intro earlier hearlier
    exact malformed?_eq_none_iff.1 (hfront earlier hearlier)
  | none =>
    have hwell : ∀ entry ∈ properties.entries, malformed? entry = none :=
      List.findSome?_eq_none_iff.1 hfirst
    refine ⟨?_, holdsFile_foldl_put hwell⟩
    intro entry hentry
    exact malformed?_eq_none_iff.1 (hwell entry hentry)

/-- A later number does not make up for a malformed one. -/
example :
    (ofProperties
      { entries := [("debug", "all"), ("asn1.codec.skip.bytes", "-1"),
          ("asn1.codec.skip.bytes", "1")]
        skipped := [] }).result =
      .error
        { key := "asn1.codec.skip.bytes", value := "-1", fault := .integer .invalidDigit } := by
  decide +kernel

end SettingsLayer
end OctetRelay
