/-
# Which layer counts

The command line counts before the environment, the environment before the
file, and the file before the defaults.  The settings are therefore those of
one layer, the command line over the environment over the file, and nothing
else of the three has any influence on them (`ofLayers_precedence`).

What the environment gives comes as text and is read without regard to the
settings.  Its entries stand in order whatever they are (`tidy_layer`), and they
write a layer if each variable has the type of its setting
(`exists_writes_layer`).

Source: `from_layers`; `SPEC_FULL.md` 11, sources from the lowest to the highest
precedence.
-/

import Mathlib.Data.List.Induction
import OctetRelay.Proofs.ReadLayer
import OctetRelay.Settings.Layers

namespace OctetRelay

open Dictionary (get? Ordered)

namespace Literal

/-- Entries that are read stay in order. -/
theorem ordered_of_readEntries {fuel : Nat} {entries read : List (String × Value)}
    {text rest : List Char} (hordered : Ordered entries)
    (h : readEntries fuel entries text = some (read, rest)) : Ordered read := by
  induction fuel generalizing entries text with
  | zero =>
    rw [readEntries] at h
    cases h
  | succ fuel ih =>
    unfold readEntries at h
    split at h
    · cases h
    · exact (Prod.mk.inj (Option.some.inj h)).1 ▸ hordered
    · rename_i hfuel _
      obtain rfl := Nat.succ.inj hfuel
      simp only [Option.bind_eq_bind, Option.bind_eq_some_iff, Prod.exists] at h
      obtain ⟨key, afterKey, -, afterMark, -, value, afterValue, -, h⟩ := h
      have hinsert := Dictionary.ordered_insert key value hordered
      split at h
      · exact ih hinsert h
      · exact (Prod.mk.inj (Option.some.inj h)).1 ▸ hinsert
      · cases h

/-- The entries of a dictionary that is read are in order. -/
theorem ordered_of_readValue {fuel : Nat} {text rest : List Char} {origin : Origin}
    {entries : List (String × Value)}
    (h : readValue fuel text = some (.dict origin entries, rest)) : Ordered entries := by
  cases fuel with
  | zero =>
    rw [readValue] at h
    cases h
  | succ fuel =>
    unfold readValue at h
    obtain ⟨⟨value, afterValue⟩, hread, hvalue⟩ := Option.map_eq_some_iff.1 h
    obtain rfl : value = .dict origin entries := (Prod.mk.inj hvalue).1
    split at hread
    · cases hread
    · cases hread
    · split at hread
      · obtain ⟨⟨inner, afterInner⟩, hinner, heq⟩ := Option.map_eq_some_iff.1 hread
        cases heq
        exact ordered_of_readEntries .nil hinner
      · obtain ⟨_, _, heq⟩ := Option.map_eq_some_iff.1 hread
        cases heq
      · obtain ⟨_, _, heq⟩ := Option.map_eq_some_iff.1 hread
        cases heq
      · cases hread
      · cases hread
      · cases hread

/-- The entries of a dictionary that a variable holds are in order. -/
theorem ordered_of_parse {text : String} {origin : Origin} {entries : List (String × Value)}
    (h : parse text = .dict origin entries) : Ordered entries := by
  unfold parse at h
  split at h
  · rename_i value hread
    rw [h] at hread
    exact ordered_of_readValue hread
  · cases h

end Literal

namespace Environment

open SettingsLayer (Writes Tidy properties?)

/-- No entries are in order. -/
theorem tidy_nil : Tidy [] := ⟨.nil, fun _ h => Option.some.inj h ▸ .nil⟩

/-- One entry is in order if those inside it are. -/
theorem tidy_singleton {key : String} {value : Value}
    (h : ∀ origin entries, value = .dict origin entries → Ordered entries) :
    Tidy [(key, value)] := by
  refine ⟨List.pairwise_singleton .., fun properties hproperties => ?_⟩
  rw [properties?, get?, get?] at hproperties
  split at hproperties
  · exact Option.some.inj hproperties ▸ .nil
  · rename_i found heq
    split at heq
    · obtain rfl := Option.some.inj heq
      cases value with
      | scalar | list => cases hproperties
      | dict origin entries => exact Option.some.inj hproperties ▸ h origin entries rfl
    · cases heq

/-- The entries that lead to a value are in order if those of the value are. -/
theorem tidy_nest {value : Value}
    (h : ∀ origin entries, value = .dict origin entries → Ordered entries) (path : List String) :
    Tidy (nest path value) := by
  induction path with
  | nil => exact tidy_nil
  | cons key path ih =>
    cases path with
    | nil => exact tidy_singleton h
    | cons next path =>
      refine tidy_singleton fun origin entries heq => ?_
      cases heq
      exact ih.ordered

/-- A variable that names a setting is set over those before it. -/
theorem layer_concat (assignments : List (String × String)) (assignment : String × String) :
    layer (assignments ++ [assignment]) =
      match path? assignment.1 with
      | none => layer assignments
      | some path =>
        Value.mergeEntries (layer assignments) (nest path (Literal.parse assignment.2)) := by
  rw [layer, List.foldl_append]
  rfl

/-- **The entries of an environment are in order.** -/
theorem tidy_layer (assignments : List (String × String)) : Tidy (layer assignments) := by
  induction assignments using List.reverseRecOn with
  | nil => exact tidy_nil
  | append_singleton assignments assignment ih =>
    rw [layer_concat]
    split
    · exact ih
    · exact ih.merge (tidy_nest (fun _ _ => Literal.ordered_of_parse) _)

/-- Variables that name no setting leave the environment without entries. -/
theorem layer_eq_nil {assignments : List (String × String)}
    (h : ∀ assignment ∈ assignments, path? assignment.1 = none) : layer assignments = [] := by
  induction assignments using List.reverseRecOn with
  | nil => rfl
  | append_singleton assignments assignment ih =>
    rw [layer_concat, h assignment (by simp)]
    exact ih fun other hother => h other (List.mem_append_left _ hother)

/-- No entries write the layer that gives nothing. -/
theorem writes_nil : Writes [] {} := SettingsLayer.writes_toEntries {} .environment

/-- Variables that name no setting write the layer that gives nothing. -/
theorem writes_layer {assignments : List (String × String)}
    (h : ∀ assignment ∈ assignments, path? assignment.1 = none) :
    Writes (layer assignments) {} := by
  rw [layer_eq_nil h]
  exact writes_nil

/-- **Variables of the types of their settings make an environment that writes a layer.** -/
theorem exists_writes_layer {assignments : List (String × String)}
    (h : ∀ assignment ∈ assignments, ∀ path, path? assignment.1 = some path →
      ∃ setting, Writes (nest path (Literal.parse assignment.2)) setting) :
    ∃ environment, Writes (layer assignments) environment := by
  induction assignments using List.reverseRecOn with
  | nil => exact ⟨{}, writes_nil⟩
  | append_singleton assignments assignment ih =>
    obtain ⟨environment, hwrites⟩ :=
      ih fun other hother => h other (List.mem_append_left _ hother)
    rw [layer_concat]
    cases hpath : path? assignment.1 with
    | none => exact ⟨environment, hwrites⟩
    | some path =>
      obtain ⟨setting, hsetting⟩ := h assignment (by simp) path hpath
      exact ⟨setting.atop environment, hsetting.merge
        (tidy_nest (fun _ _ => Literal.ordered_of_parse) path) hwrites⟩

end Environment

namespace Settings

open SettingsLayer (Writes Tidy)

variable (file commandLine : SettingsLayer)

/-- The entry that the defaults stand for gives no setting. -/
theorem writes_defaults : Writes [("kafka", .dict .defaults [])] {} := by
  constructor
  case kafka => exact ⟨[], rfl, fun _ => rfl⟩
  all_goals rfl

/-- The merged layers are in order if the environment is. -/
theorem tidy_mergeLayers {entries : List (String × Value)} (h : Tidy entries) :
    Tidy (mergeLayers file entries commandLine) :=
  have hdefaults : Tidy [("kafka", .dict .defaults [])] :=
    Environment.tidy_singleton fun _ _ heq => by cases heq; exact .nil
  ((hdefaults.merge (SettingsLayer.tidy_toEntries file .file)).merge h).merge
    (SettingsLayer.tidy_toEntries commandLine .commandLine)

/-- A file over the defaults writes its own layer. -/
theorem writes_file :
    Writes (Value.mergeEntries [("kafka", .dict .defaults [])] (file.toEntries .file)) file := by
  simpa using (SettingsLayer.writes_toEntries file .file).merge
    (SettingsLayer.tidy_toEntries file .file) writes_defaults

/-- **The merged layers write one layer**: the command line over the environment over the file. -/
theorem writes_mergeLayers {entries : List (String × Value)} {environment : SettingsLayer}
    (htidy : Tidy entries) (h : Writes entries environment) :
    Writes (mergeLayers file entries commandLine) (commandLine.atop (environment.atop file)) :=
  (SettingsLayer.writes_toEntries commandLine .commandLine).merge
    (SettingsLayer.tidy_toEntries commandLine .commandLine) (h.merge htidy (writes_file file))

/-- Layers give the settings of the layer that they write. -/
theorem ofLayers_of_writes {entries : List (String × Value)} {environment : SettingsLayer}
    (htidy : Tidy entries) (h : Writes entries environment) :
    let winning := commandLine.atop (environment.atop file)
    if winning.offset.any StartOffset.isNegative then
      ∃ misfit : Misfit, misfit.path = ["offset"] ∧
        ofLayers file entries commandLine = .error (.unloadable (.misfit misfit))
    else ofLayers file entries commandLine = .ok winning.settings := by
  intro winning
  have hwrites := writes_mergeLayers file commandLine htidy h
  have hmerged := tidy_mergeLayers file commandLine htidy
  split
  · rename_i hneg
    obtain ⟨misfit, hpath, hread⟩ := ofEntries_of_isNegative hmerged hwrites hneg
    refine ⟨misfit, hpath, ?_⟩
    rw [ofLayers, hread]
    rfl
  · rename_i hpos
    rw [ofLayers, ofEntries_of_writes hmerged hwrites (Bool.eq_false_iff.2 hpos)]
    rfl

/-- Whether layers load, and with which settings, is decided by the layer that they write. -/
theorem toOption_ofLayers {entries : List (String × Value)} {environment : SettingsLayer}
    (htidy : Tidy entries) (h : Writes entries environment) :
    (ofLayers file entries commandLine).toOption =
      let winning := commandLine.atop (environment.atop file)
      if winning.offset.any StartOffset.isNegative then none else some winning.settings := by
  have hresult := ofLayers_of_writes file commandLine htidy h
  simp only at hresult ⊢
  split at hresult
  · rename_i hneg
    obtain ⟨misfit, -, herror⟩ := hresult
    rw [herror, if_pos hneg]
    rfl
  · rename_i hpos
    rw [hresult, if_neg hpos]
    rfl

/-- The settings have the client properties of their layer. -/
@[simp] theorem get?_kafka_settings (layer : SettingsLayer) (key : String) :
    layer.settings.kafka.get? key = layer.kafka.get? key := by
  rw [SettingsLayer.settings, PropertyMap.get?_union]
  exact Option.or_none

/-- **The higher layer counts, setting by setting.**  Over a file, an environment whose variables
have the types of their settings, and a command line, each setting is the one that the command line
gives, else the environment, else the file, else the default; client properties are told apart by
their whole keys.  An explicit offset below zero that counts makes the layers unloadable, and no
variables of the environment let one through.  Layers with the same settings in force give the same
result, whatever else stands below those settings. -/
theorem ofLayers_precedence {assignments : List (String × String)} {environment : SettingsLayer}
    (henvironment : Writes (Environment.layer assignments) environment) :
    let winning := commandLine.atop (environment.atop file)
    let result := ofLayers file (Environment.layer assignments) commandLine
    (winning.offset.any StartOffset.isNegative = false → result = .ok winning.settings) ∧
    (∀ key, winning.settings.kafka.get? key =
      (commandLine.kafka.get? key).or ((environment.kafka.get? key).or (file.kafka.get? key))) ∧
    (winning.offset.any StartOffset.isNegative = true →
      ∃ misfit : Misfit, misfit.path = ["offset"] ∧
        result = .error (.unloadable (.misfit misfit))) ∧
    (∀ others settings, ofLayers file (Environment.layer others) commandLine = .ok settings →
      settings.offset.any StartOffset.isNegative = false) ∧
    (∀ file' others environment' commandLine',
      Writes (Environment.layer others) environment' →
      commandLine'.atop (environment'.atop file') = winning →
      (ofLayers file' (Environment.layer others) commandLine').toOption = result.toOption) := by
  intro winning result
  have hresult := ofLayers_of_writes file commandLine (Environment.tidy_layer assignments)
    henvironment
  refine ⟨fun hpos => ?_, fun key => ?_, fun hneg => ?_, fun others settings h => ?_,
    fun file' others environment' commandLine' h hsame => ?_⟩
  · simpa [winning, hpos] using hresult
  · simp [winning, SettingsLayer.atop]
  · simpa [winning, hneg] using hresult
  · exact isNegative_of_ofEntries (ok_of_mapError h)
  · rw [toOption_ofLayers file' commandLine' (Environment.tidy_layer others) h, hsame,
      toOption_ofLayers file commandLine (Environment.tidy_layer assignments) henvironment]

/-- The skipped octets come from the file, the group and one property from the environment, over
those of the file, and the start and the other property from the command line. -/
theorem ofLayers_precedence_of_three_layers :
    let file : SettingsLayer :=
      { groupId := some "file", skipBytes := some 4
        kafka := .ofList [("acks", "1"), ("linger.ms", "5")] }
    let assignments := [("ACM_GROUP_ID", "relay"), ("ACM_KAFKA__ACKS", "all")]
    let environment : SettingsLayer :=
      { groupId := some "relay", kafka := .ofList [("acks", "all")] }
    let commandLine : SettingsLayer :=
      { offset := some .beginning, kafka := .ofList [("linger.ms", "0")] }
    Writes (Environment.layer assignments) environment ∧
      ofLayers file (Environment.layer assignments) commandLine =
        .ok { groupId := "relay", skipBytes := 4, offset := some .beginning
              kafka := .ofList [("acks", "all"), ("linger.ms", "0")] } := by
  intro file assignments environment commandLine
  have hwrites : Writes (Environment.layer assignments) environment := by
    have hlayer : Environment.layer assignments =
        [("group_id", .scalar .environment (.text "relay")),
         ("kafka", .dict .environment [("acks", .scalar .environment (.text "all"))])] := by
      rfl
    rw [hlayer]
    constructor
    case kafka =>
      exact ⟨_, rfl, SettingsLayer.gives_map .environment [("acks", "all")]⟩
    all_goals rfl
  exact ⟨hwrites, (ofLayers_precedence file commandLine hwrites).1 rfl⟩

end Settings
end OctetRelay
