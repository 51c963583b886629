/-
# What a list of settings tells

A configuration check lists the settings of the program first and then the
properties of the clients, all of them as pairs of texts.  Nine settings always
stand there, in nine fixed places, and each text tells its setting.  The list
goes on with what is in use of three more:

| part | key | listed |
| --- | --- | --- |
| starting position | `offset` | if it is set |
| debug contexts | `debug` | if they are set |
| properties of the clients | any text, in key order | all of them |

The pairs do not say which part they come from.  So a first property `debug`
reads like debug contexts, and a first property `offset` like a starting
position, where the setting itself is not in use.  `PosesAs` says that the first
property of some settings is taken for a setting in this way, and that is the
only way in which different settings are listed alike (`describe_eq_iff`).

Source: `describe`; `SPEC_FULL.md` 11, the configuration check.
-/

import OctetRelay.Proofs.OffsetText
import OctetRelay.Settings.Layers

namespace OctetRelay

/-- Two integers with one text are one. -/
theorem Text.toString_injective : Function.Injective (toString : Int → String) := by
  intro number other htext
  have hspells := spells_toString number
  rw [htext] at hspells
  exact hspells.unique (spells_toString other)

/-- **Two starting positions with one text are one.** -/
theorem StartOffset.text_injective : Function.Injective StartOffset.text := by
  intro offset other htext
  have hdenoted := denoted?_text offset
  rw [htext, denoted?_text] at hdenoted
  exact (Option.some.inj hdenoted).symm

/-- Properties with the same entries are the same. -/
theorem PropertyMap.eq_of_entries {map other : PropertyMap} (h : map.entries = other.entries) :
    map = other := by
  cases map
  cases other
  cases h
  rfl

namespace Settings

/-- No partition is listed as if there were none. -/
theorem toString_ne_unassigned (partition : Int32) : toString partition.toInt ≠ "unassigned" := by
  intro htext
  have hspells := Text.spells_toString partition.toInt
  rw [htext] at hspells
  rcases hspells.mem (c := 'u') (by decide) with hc | hc | hc <;> cases hc

/-- Partitions are told apart by their texts, a missing one included. -/
theorem partitionText_injective :
    Function.Injective fun partition : Option Int32 =>
      (partition.map fun p => toString p.toInt).getD "unassigned" := by
  intro partition other htext
  cases partition with
  | none =>
    cases other with
    | none => rfl
    | some q => exact absurd htext.symm (toString_ne_unassigned q)
  | some p =>
    cases other with
    | none => exact absurd htext (toString_ne_unassigned p)
    | some q => exact congrArg some (Int32.toInt_inj.1 (Text.toString_injective htext))

/-- The consumed topic of settings that keep the rules is the only one. -/
theorem exists_topic_of_validate {settings : Settings} (h : settings.validate = .ok ()) :
    ∃ topic, settings.consumerTopics = [topic] := by
  have hfault : settings.fault? = none := by
    unfold validate at h
    split at h
    · cases h
    · assumption
  have htopics : topicFault? settings.consumerTopics = none := by
    unfold fault? at hfault
    split at hfault
    · cases hfault
    · split at hfault
      · cases hfault
      · assumption
  match hlist : settings.consumerTopics with
  | [] => rw [hlist] at htopics; cases htopics
  | [topic] => exact ⟨topic, rfl⟩
  | _ :: _ :: _ => rw [hlist] at htopics; cases htopics

/-- What is listed behind the nine settings that always are. -/
def inUse (settings : Settings) : List (String × String) :=
  (settings.offset.map fun offset => ("offset", offset.text)).toList
    ++ (settings.debug.map fun debug => ("debug", debug)).toList
    ++ settings.kafka.entries

/-- The nine settings that are always listed are the same. -/
def SameListed (settings other : Settings) : Prop :=
  other = { settings with offset := other.offset, debug := other.debug, kafka := other.kafka }

/-- Settings are listed alike in either order. -/
theorem SameListed.symm {settings other : Settings} (h : settings.SameListed other) :
    other.SameListed settings := by
  have hback := congrArg (fun s : Settings => { s with
    offset := settings.offset, debug := settings.debug, kafka := settings.kafka }) h
  exact hback.symm

/-- Settings that are the same in twelve places are the same. -/
theorem SameListed.eq {settings other : Settings} (h : settings.SameListed other)
    (hoffset : settings.offset = other.offset) (hdebug : settings.debug = other.debug)
    (hkafka : settings.kafka = other.kafka) : settings = other := by
  rw [SameListed, ← hoffset, ← hdebug, ← hkafka] at h
  exact h.symm

/-- **The nine settings that are always listed are told by the list**, the list of consumed
topics among them where there is only one topic. -/
theorem sameListed_of_describe_eq {settings other : Settings}
    (hsettings : settings.validate = .ok ()) (hother : other.validate = .ok ())
    (h : settings.describe = other.describe) :
    settings.SameListed other ∧ settings.inUse = other.inUse := by
  obtain ⟨topic, htopic⟩ := exists_topic_of_validate hsettings
  obtain ⟨topic', htopic'⟩ := exists_topic_of_validate hother
  simp only [describe, htopic, htopic', List.cons_append, List.nil_append, List.cons.injEq,
    Prod.mk.injEq, true_and, String.intercalate_singleton] at h
  obtain ⟨hbrokers, hgroup, rfl, hproducer, hpartition, htimeout, hexit, hcount, hskip,
    hinUse⟩ := h
  have hbool : ∀ b b' : Bool, toString b = toString b' → b = b' := by decide
  have hpartition' : settings.partition = other.partition := partitionText_injective hpartition
  have htimeout' : settings.consumerTimeoutMs = other.consumerTimeoutMs :=
    UInt64.toNat_inj.1 (Int.ofNat.inj (Text.toString_injective htimeout))
  have hexit' : settings.exitOnEof = other.exitOnEof := hbool _ _ hexit
  have hcount' : settings.partitionCount = other.partitionCount :=
    UInt32.toNat_inj.1 (Int.ofNat.inj (Text.toString_injective hcount))
  have hskip' : settings.skipBytes = other.skipBytes :=
    UInt64.toNat_inj.1 (Int.ofNat.inj (Text.toString_injective hskip))
  refine ⟨?_, hinUse⟩
  rw [SameListed, hbrokers, hgroup, htopic, ← htopic', hproducer, hpartition', htimeout', hexit',
    hcount', hskip']

/-- `settings.PosesAs other`: the first property of `settings` is taken for a setting that it
does not use, and `other` uses it as that setting. -/
inductive PosesAs : Settings → Settings → Prop
  | debug {settings : Settings} {contexts : String} {rest : PropertyMap}
    (hdebug : settings.debug = none)
    (hfirst : settings.kafka.entries = ("debug", contexts) :: rest.entries) :
    PosesAs settings { settings with debug := some contexts, kafka := rest }
  | offset {settings : Settings} {offset : StartOffset} {rest : PropertyMap}
    (hoffset : settings.offset = none) (hdebug : settings.debug = none)
    (hfirst : settings.kafka.entries = ("offset", offset.text) :: rest.entries) :
    PosesAs settings { settings with offset := some offset, kafka := rest }

/-- A property that poses as a setting is listed in the place of that setting. -/
theorem PosesAs.describe_eq {settings other : Settings} (h : settings.PosesAs other) :
    settings.describe = other.describe := by
  cases h with
  | debug hdebug hfirst => simp [describe, hdebug, hfirst]
  | offset hoffset hdebug hfirst => simp [describe, hoffset, hdebug, hfirst]

section Alike

variable {settings other : Settings}

/-- Debug contexts on one side only stand for a first property on the other. -/
theorem SameListed.posesAs_of_debug (hsame : settings.SameListed other)
    (hoffset : settings.offset = other.offset) {contexts : String} (hunset : settings.debug = none)
    (hset : other.debug = some contexts) (h : settings.inUse = other.inUse) :
    settings.PosesAs other := by
  rw [inUse, inUse, hoffset, hunset, hset, List.append_assoc, List.append_assoc] at h
  have hfirst : settings.kafka.entries = ("debug", contexts) :: other.kafka.entries :=
    List.append_cancel_left h
  rw [SameListed, ← hoffset, hset] at hsame
  rw [hsame]
  exact .debug hunset hfirst

/-- A starting position on one side only stands for a first property on the other. -/
theorem SameListed.posesAs_of_offset (hsame : settings.SameListed other) {offset : StartOffset}
    (hunset : settings.offset = none) (hset : other.offset = some offset)
    (h : settings.inUse = other.inUse) : settings.PosesAs other := by
  rw [inUse, inUse, hunset, hset] at h
  cases hdebug : settings.debug with
  | some contexts =>
    rw [hdebug] at h
    have hkey : "debug" = "offset" := congrArg Prod.fst (List.cons.inj h).1
    exact absurd hkey (by decide)
  | none =>
    rw [hdebug] at h
    have hfirst : settings.kafka.entries = ("offset", offset.text) ::
        ((other.debug.map fun debug => ("debug", debug)).toList ++ other.kafka.entries) := h
    cases hdebug' : other.debug with
    | some contexts =>
      -- properties are listed in key order, so none called `debug` comes later
      have hordered := settings.kafka.ordered
      rw [hfirst, hdebug'] at hordered
      have hlt : "offset" < "debug" := (List.pairwise_cons.1 hordered).1 _ List.mem_cons_self
      exact absurd hlt (by decide)
    | none =>
      rw [hdebug'] at hfirst
      rw [SameListed, hset, hdebug', ← hdebug] at hsame
      rw [hsame]
      exact .offset hunset hdebug hfirst

/-- Where the starting positions agree, only debug contexts can be mistaken. -/
theorem SameListed.eq_or_posesAs_of_offset (hsame : settings.SameListed other)
    (hoffset : settings.offset = other.offset) (h : settings.inUse = other.inUse) :
    settings = other ∨ settings.PosesAs other ∨ other.PosesAs settings := by
  have hlist := h
  rw [inUse, inUse, hoffset, List.append_assoc, List.append_assoc] at hlist
  have hrest := List.append_cancel_left hlist
  cases hdebug : settings.debug with
  | none =>
    cases hdebug' : other.debug with
    | none =>
      rw [hdebug, hdebug'] at hrest
      exact .inl (hsame.eq hoffset (hdebug.trans hdebug'.symm) (PropertyMap.eq_of_entries hrest))
    | some contexts => exact .inr (.inl (hsame.posesAs_of_debug hoffset hdebug hdebug' h))
  | some contexts =>
    cases hdebug' : other.debug with
    | none => exact .inr (.inr (hsame.symm.posesAs_of_debug hoffset.symm hdebug' hdebug h.symm))
    | some contexts' =>
      rw [hdebug, hdebug'] at hrest
      obtain ⟨hfirst, hkafka⟩ := List.cons.inj hrest
      have hcontexts : contexts = contexts' := congrArg Prod.snd hfirst
      exact .inl (hsame.eq hoffset (by rw [hdebug, hdebug', hcontexts])
        (PropertyMap.eq_of_entries hkafka))

/-- Settings that are listed alike behind the first nine differ by a posing property at most. -/
theorem SameListed.eq_or_posesAs (hsame : settings.SameListed other)
    (h : settings.inUse = other.inUse) :
    settings = other ∨ settings.PosesAs other ∨ other.PosesAs settings := by
  cases hoffset : settings.offset with
  | none =>
    cases hoffset' : other.offset with
    | none => exact hsame.eq_or_posesAs_of_offset (hoffset.trans hoffset'.symm) h
    | some offset => exact .inr (.inl (hsame.posesAs_of_offset hoffset hoffset' h))
  | some offset =>
    cases hoffset' : other.offset with
    | none => exact .inr (.inr (hsame.symm.posesAs_of_offset hoffset' hoffset h.symm))
    | some offset' =>
      have hlist := h
      rw [inUse, inUse, hoffset, hoffset'] at hlist
      have htext : offset.text = offset'.text := congrArg Prod.snd (List.cons.inj hlist).1
      have hsameOffset : settings.offset = other.offset := by
        rw [hoffset, hoffset', StartOffset.text_injective htext]
      exact hsame.eq_or_posesAs_of_offset hsameOffset h

end Alike

/-- **Settings that keep the rules are listed alike just if they are the same, or differ in one
place:** the first property of one is `debug` or `offset`, reads like a setting that it does not
use, and stands for that setting in the other. -/
theorem describe_eq_iff {settings other : Settings} (hsettings : settings.validate = .ok ())
    (hother : other.validate = .ok ()) :
    settings.describe = other.describe ↔
      settings = other ∨ settings.PosesAs other ∨ other.PosesAs settings := by
  constructor
  · intro h
    obtain ⟨hsame, hinUse⟩ := sameListed_of_describe_eq hsettings hother h
    exact hsame.eq_or_posesAs hinUse
  · rintro (rfl | hposes | hposes)
    · rfl
    · exact hposes.describe_eq
    · exact hposes.describe_eq.symm

/-- A property `debug` is listed in the place of debug contexts. -/
theorem describe_eq_iff_debug :
    let settings : Settings :=
      { consumerTopics := ["in"], producerTopic := "out", kafka := .ofList [("debug", "all")] }
    let other : Settings :=
      { consumerTopics := ["in"], producerTopic := "out", debug := some "all" }
    settings.validate = .ok () ∧ other.validate = .ok () ∧ settings ≠ other ∧
      settings.describe = other.describe := by
  intro settings other
  have hsettings : settings.validate = .ok () := by decide +kernel
  have hother : other.validate = .ok () := by decide +kernel
  have hposes : settings.PosesAs other := .debug rfl rfl
  have hne : settings ≠ other := by decide +kernel
  exact ⟨hsettings, hother, hne, (describe_eq_iff hsettings hother).2 (.inr (.inl hposes))⟩

/-- **A file that sets a property `offset` and a command line that sets the starting position are
listed alike**, though the consumer starts in different places. -/
theorem describe_confuses_offset :
    let text := "asn1.j2735.topic.consumer = in\nasn1.j2735.topic.producer = out\n"
    ∃ settings other : Settings,
      (load "acm.properties" (.ok (text ++ "offset = beginning\n")) (Environment.layer [])
        {}).result = .ok settings ∧
      (load "acm.properties" (.ok text) (Environment.layer [])
        { offset := some .beginning }).result = .ok other ∧
      settings.validate = .ok () ∧ other.validate = .ok () ∧
      settings.describe = other.describe ∧ settings ≠ other ∧
      settings.offset = none ∧ other.offset = some .beginning := by
  let settings : Settings :=
    { consumerTopics := ["in"], producerTopic := "out", kafka := .ofList [("offset", "beginning")] }
  let other : Settings :=
    { consumerTopics := ["in"], producerTopic := "out", offset := some .beginning }
  refine ⟨settings, other, ?_, ?_, ?_, ?_, ?_, ?_, rfl, rfl⟩
  all_goals decide +kernel

end Settings
end OctetRelay
