/-
# Texts from the environment

Three settings are a text and have one by default: the brokers, the group and
the produced topic.  A variable of the environment gives such a setting without
regard to its kind, and what is read of its value decides:

| value of the variable | the settings |
| --- | --- |
| a name that stands for itself | those without the variable, and the name in its place |
| a name that stands for a flag or a number | none: a text was expected |

A file and a command line give texts as texts, so every name goes through there.
Of the merged layers only the one value is different with the variable
(`get?_mergeLayers_singleton`), so no other setting has a part in this.

Source: `from_layers`; `SPEC_FULL.md` 11, the merged sources.
-/

import OctetRelay.Proofs.Precedence
import OctetRelay.Proofs.UnquotedText

namespace OctetRelay

open Dictionary (get? Ordered)

/-- The settings that are a text and have one by default. -/
inductive TextSetting where
  | brokers
  | groupId
  | producerTopic
  deriving DecidableEq, Repr

namespace TextSetting

/-- The setting among all of them. -/
def field : TextSetting → Settings.Field
  | .brokers => .brokers
  | .groupId => .groupId
  | .producerTopic => .producerTopic

/-- The variable of the environment that gives the setting. -/
def variableName : TextSetting → String
  | .brokers => "ACM_BROKERS"
  | .groupId => "ACM_GROUP_ID"
  | .producerTopic => "ACM_PRODUCER_TOPIC"

/-- What a layer gives for the setting. -/
def given? (layer : SettingsLayer) : TextSetting → Option String
  | .brokers => layer.brokers
  | .groupId => layer.groupId
  | .producerTopic => layer.producerTopic

/-- The layer that gives this setting only. -/
def layer (text : String) : TextSetting → SettingsLayer
  | .brokers => { brokers := some text }
  | .groupId => { groupId := some text }
  | .producerTopic => { producerTopic := some text }

/-- The settings with another text for this one. -/
def store (text : String) (settings : Settings) : TextSetting → Settings
  | .brokers => { settings with brokers := text }
  | .groupId => { settings with groupId := text }
  | .producerTopic => { settings with producerTopic := text }

variable (setting : TextSetting)

/-- The variable names the setting. -/
theorem path?_variableName :
    Environment.path? setting.variableName = some [setting.field.name] := by
  cases setting <;> rfl

/-- What is wrong with a variable that gives the setting and holds no text. -/
def notText (found : Found) : Misfit :=
  { fault := .wrongKind found .text, origin := .environment, path := [setting.field.name] }

/-- The setting is one of those that are read. -/
theorem field_mem_byName : setting.field ∈ Settings.Field.byName := by
  cases setting <;> simp [field, Settings.Field.byName]

/-- Nothing but a text is read as the setting. -/
theorem read_field_of_not_text {content : Scalar} (h : ∀ text, content ≠ .text text)
    (origin : Origin) :
    setting.field.read (.scalar origin content) =
      Settings.wrongKind (.scalar origin content) .text := by
  have hread : Settings.readText (.scalar origin content) =
      Settings.wrongKind (.scalar origin content) .text := by
    cases content with
    | text text => exact absurd rfl (h text)
    | absent | flag | unsigned | signed | binary => rfl
  cases setting <;> exact hread

/-- What the entries of a layer have under the setting's name is what the layer gives for it. -/
theorem gives_field {entries : List (String × Value)} {layer : SettingsLayer}
    (h : SettingsLayer.Writes entries layer) :
    SettingsLayer.Gives entries setting.field.name Value.text? (setting.given? layer) := by
  cases setting with
  | brokers => exact h.brokers
  | groupId => exact h.groupId
  | producerTopic => exact h.producerTopic

/-- A text alone writes the layer that gives it. -/
theorem writes_layer (text : String) (origin : Origin) :
    SettingsLayer.Writes [(setting.field.name, .scalar origin (.text text))]
      (setting.layer text) := by
  cases setting <;>
  · constructor
    case kafka => exact ⟨[], rfl, fun _ => rfl⟩
    all_goals rfl

/-- Over a lower layer and below one that does not give the setting, its text is put in the place of
what was there. -/
theorem settings_atop {above : SettingsLayer} (h : setting.given? above = none) (text : String)
    (below : SettingsLayer) :
    (above.atop ((setting.layer text).atop below)).settings =
      setting.store text (above.atop below).settings := by
  have hempty : PropertyMap.union below.kafka .empty = below.kafka := rfl
  cases setting <;>
  · simp only [given?] at h
    simp [SettingsLayer.atop, layer, SettingsLayer.settings, store, h, hempty]

/-- The starting position is not touched. -/
theorem offset_atop (above : SettingsLayer) (text : String) (below : SettingsLayer) :
    (above.atop ((setting.layer text).atop below)).offset = (above.atop below).offset := by
  cases setting <;> rfl

end TextSetting

/-- A value without parts replaces what is below it. -/
theorem Value.mergeEntries_scalar (below : List (String × Value)) (key : String) (origin : Origin)
    (content : Scalar) :
    mergeEntries below [(key, .scalar origin content)] =
      Dictionary.insert key (.scalar origin content) below := by
  rw [mergeEntries_cons, mergeEntries]
  cases get? key below with
  | none => rfl
  | some old =>
    have hscalar (origin' : Origin) (entries : List (String × Value)) :
        scalar origin content ≠ .dict origin' entries := by
      intro heq
      cases heq
    rw [Option.map_some, merge_of_not_dict hscalar old]
    rfl

namespace Environment

/-- One variable that names a setting, among others that name none. -/
theorem layer_of_single {front back : List (String × String)} {assignment : String × String}
    {key : String} (hfront : ∀ other ∈ front, path? other.1 = none)
    (hpath : path? assignment.1 = some [key]) (hback : ∀ other ∈ back, path? other.1 = none) :
    layer (front ++ assignment :: back) = [(key, Literal.parse assignment.2)] := by
  induction back using List.reverseRecOn with
  | nil =>
    rw [layer_concat, hpath, layer_eq_nil hfront]
    rfl
  | append_singleton back other ih =>
    rw [← List.cons_append, ← List.append_assoc, layer_concat, hback other (by simp)]
    exact ih fun other hother => hback other (List.mem_append_left _ hother)

end Environment

namespace Settings

open SettingsLayer (Writes Tidy)

/-- **A setting that cannot be read leaves no settings**, and its misfit is the reason where the
others are read without it. -/
theorem ofEntries_of_misfit {entries others : List (String × Value)} {field : Field}
    (hfield : field ∈ Field.byName)
    (hothers : ∀ other ≠ field.name, get? other entries = get? other others) {misfit : Misfit}
    (hmisfit : readUnder entries field (field.stored {}) = .error misfit) :
    (ofEntries entries).toOption = none ∧
      ∀ settings, ofEntries others = .ok settings → ofEntries entries = .error misfit := by
  refine ⟨?_, fun settings hsettings => ?_⟩
  · cases hread : ofEntries entries with
    | error other => rfl
    | ok settings =>
      have hstored := ofEntries_eq_ok_iff.1 hread field hfield
      rw [hmisfit] at hstored
      cases hstored
  · have hsame (other : Field) (hother : other ∈ Field.byName) (hname : other.name ≠ field.name) :
        readUnder entries other (other.stored {}) = .ok (other.stored settings) := by
      rw [readUnder, hothers other.name hname]
      exact ofEntries_eq_ok_iff.1 hsettings other hother
    rw [ofEntries_of_others hfield hsame, hmisfit]
    rfl

variable (file commandLine : SettingsLayer)

/-- A value of the environment that no layer above it gives stands in the merged layers, and nothing
else is different there. -/
theorem get?_mergeLayers_singleton {key : String} (content : Scalar)
    (hcommandLine : get? key (commandLine.toEntries .commandLine) = none) :
    let value : Value := .scalar .environment content
    let merged := mergeLayers file [(key, value)] commandLine
    get? key merged = some value ∧
      ∀ other ≠ key, get? other merged = get? other (mergeLayers file [] commandLine) := by
  have hordered := (SettingsLayer.tidy_toEntries commandLine .commandLine).ordered
  intro value merged
  simp only [merged, mergeLayers, Value.get?_mergeEntries hordered, value,
    Value.mergeEntries_scalar, Dictionary.get?_insert]
  refine ⟨?_, fun other hother => ?_⟩
  · rw [hcommandLine, if_pos trivial]
    rfl
  · rw [if_neg hother.symm]
    rfl

variable (setting : TextSetting)

/-- **A variable that holds a text gives it to the setting**, and leaves the others alone. -/
theorem toOption_ofLayers_of_text (text : String)
    (hcommandLine : setting.given? commandLine = none) :
    (ofLayers file [(setting.field.name, .scalar .environment (.text text))]
        commandLine).toOption =
      (ofLayers file [] commandLine).toOption.map fun settings => setting.store text settings := by
  have htidy : Tidy [(setting.field.name, .scalar .environment (.text text))] :=
    Environment.tidy_singleton nofun
  rw [toOption_ofLayers file commandLine htidy (setting.writes_layer text .environment),
    toOption_ofLayers file commandLine Environment.tidy_nil Environment.writes_nil]
  simp only [setting.offset_atop, setting.settings_atop hcommandLine, SettingsLayer.empty_atop]
  split <;> rfl

/-- **A variable that holds no text keeps the settings from loading**, and is the reason for it if
they load without the variable. -/
theorem ofLayers_of_not_text {content : Scalar} (hcontent : ∀ text, content ≠ .text text)
    (hcommandLine : setting.given? commandLine = none) :
    let entries := [(setting.field.name, Value.scalar .environment content)]
    (ofLayers file entries commandLine).toOption = none ∧
      ∀ settings, ofLayers file [] commandLine = .ok settings →
        ofLayers file entries commandLine =
          .error (.unloadable (.misfit (setting.notText (.scalar content)))) := by
  intro entries
  have habsent : get? setting.field.name (commandLine.toEntries .commandLine) = none := by
    have hgives := setting.gives_field (SettingsLayer.writes_toEntries commandLine .commandLine)
    rw [SettingsLayer.Gives, hcommandLine] at hgives
    exact Option.map_eq_none_iff.1 hgives
  obtain ⟨hfound, hothers⟩ := get?_mergeLayers_singleton file commandLine content habsent
  have hread : readUnder (mergeLayers file entries commandLine) setting.field
      (setting.field.stored {}) = .error (setting.notText (.scalar content)) := by
    rw [readUnder_of_some setting.field hfound, setting.read_field_of_not_text hcontent]
    rfl
  obtain ⟨hnone, herror⟩ := ofEntries_of_misfit setting.field_mem_byName hothers hread
  refine ⟨?_, fun settings hsettings => ?_⟩
  · cases hfirst : ofEntries (mergeLayers file entries commandLine) with
    | error found =>
      rw [ofLayers, hfirst]
      rfl
    | ok settings =>
      rw [hfirst] at hnone
      cases hnone
  · rw [ofLayers, herror settings (ok_of_mapError hsettings)]
    rfl

/-- **A variable that holds a name.**  Over any file, below any command line that leaves the setting
alone, and among variables that name no setting: a name that stands for itself is the setting, and
everything else is as without the variable.  A name that stands for a flag or a number leaves no
settings at all; where they load without the variable, the fault is that it holds no text. -/
theorem ofLayers_of_variable {name : String} (hname : Literal.IsName name.toList)
    (hcommandLine : setting.given? commandLine = none) {front back : List (String × String)}
    (hfront : ∀ assignment ∈ front, Environment.path? assignment.1 = none)
    (hback : ∀ assignment ∈ back, Environment.path? assignment.1 = none) :
    let assignments := front ++ (setting.variableName, name) :: back
    let result := ofLayers file (Environment.layer assignments) commandLine
    let without := ofLayers file (Environment.layer (front ++ back)) commandLine
    (¬Literal.Typed name →
      result.toOption = without.toOption.map fun settings => setting.store name settings) ∧
    (Literal.Typed name →
      result.toOption = none ∧
        ∀ settings, without = .ok settings →
          result =
            .error (.unloadable (.misfit (setting.notText (Literal.parse name).found)))) := by
  intro assignments result without
  have hlayer : Environment.layer assignments = [(setting.field.name, Literal.parse name)] :=
    Environment.layer_of_single hfront setting.path?_variableName hback
  have hnone : Environment.layer (front ++ back) = [] :=
    Environment.layer_eq_nil fun assignment hassignment =>
      (List.mem_append.1 hassignment).elim (hfront assignment) (hback assignment)
  have hresult : result = ofLayers file [(setting.field.name, Literal.parse name)] commandLine :=
    congrArg (ofLayers file · commandLine) hlayer
  have hwithout : without = ofLayers file [] commandLine :=
    congrArg (ofLayers file · commandLine) hnone
  rw [hresult, hwithout]
  refine ⟨fun htyped => ?_, fun htyped => ?_⟩
  · rw [Literal.parse_of_not_typed hname htyped]
    exact toOption_ofLayers_of_text file commandLine setting name hcommandLine
  · obtain ⟨content, hparse, hcontent⟩ := Literal.exists_parse_of_typed hname htyped
    rw [hparse]
    exact ofLayers_of_not_text file commandLine setting hcontent hcommandLine

/-- A group whose name begins like a word goes through, and a topic whose name reads as a fraction
does not. -/
theorem ofLayers_of_variable_dotted :
    let file : SettingsLayer := { consumerTopics := some ["in"], groupId := some "file" }
    let commandLine : SettingsLayer := { partitionCount := some 2 }
    let front := [("ACM", "1"), ("HOME", "/srv")]
    let environment (setting : TextSetting) (name : String) :=
      Environment.layer (front ++ [(setting.variableName, name)])
    (∀ assignment ∈ front, Environment.path? assignment.1 = none) ∧
      Literal.IsName "true-relay.v2".toList ∧ ¬Literal.Typed "true-relay.v2" ∧
      Literal.IsName "1.5".toList ∧ Literal.Typed "1.5" ∧
      TextSetting.groupId.given? commandLine = none ∧
      TextSetting.producerTopic.given? commandLine = none ∧
      (ofLayers file (environment .groupId "true-relay.v2") commandLine).toOption =
        some { consumerTopics := ["in"], groupId := "true-relay.v2", partitionCount := 2 } ∧
      (ofLayers file (environment .producerTopic "1.5") commandLine).toOption = none := by
  intro file commandLine front environment
  have hfront : ∀ assignment ∈ front, Environment.path? assignment.1 = none := by decide
  have hgroup : Literal.IsName "true-relay.v2".toList :=
    ⟨by decide, List.all_eq_true.1 (by decide)⟩
  have htopic : Literal.IsName "1.5".toList := ⟨by decide, List.all_eq_true.1 (by decide)⟩
  have huntyped : ¬Literal.Typed "true-relay.v2" := by
    rintro (hflag | hflag | hnumber)
    · exact absurd hflag (by decide)
    · exact absurd hflag (by decide)
    · exact Literal.not_isNumber_of_flag true _ hnumber
  have htyped : Literal.Typed "1.5" := by
    have hwhole : ∀ c ∈ ['1'], c.isDigit = true := List.forall_mem_singleton.2 rfl
    have hpart : ∀ c ∈ ['5'], c.isDigit = true := List.forall_mem_singleton.2 rfl
    have hfraction : Text.IsFraction ([] ++ (['1'] ++ '.' :: (['5'] ++ []))) :=
      .mk .none hwhole hpart (.inl (List.cons_ne_nil _ _)) .none
    exact .inr (.inr (.fraction hfraction))
  refine ⟨hfront, hgroup, huntyped, htopic, htyped, rfl, rfl, ?_, ?_⟩
  · obtain ⟨hloads, -⟩ := ofLayers_of_variable file commandLine .groupId hgroup rfl hfront
      (List.forall_mem_nil _)
    rw [hloads huntyped]
    decide +kernel
  · obtain ⟨-, hfails⟩ :=
      ofLayers_of_variable file commandLine .producerTopic htopic rfl hfront
        (List.forall_mem_nil _)
    exact (hfails htyped).1

/-- **A topic whose name is a number cannot be given by its variable**, though the settings load
without the variable, and a file can give the same name. -/
theorem variable_of_digits_unloadable :
    let file : SettingsLayer := { consumerTopics := some ["in"] }
    Literal.IsName "2024".toList ∧
      ofLayers file (Environment.layer []) {} = .ok { consumerTopics := ["in"] } ∧
      ofLayers file (Environment.layer [("ACM_PRODUCER_TOPIC", "2024")]) {} =
        .error (.unloadable (.misfit
          { fault := .wrongKind (.scalar (.unsigned 2024)) .text, origin := .environment
            path := ["producer_topic"] })) ∧
      ofLayers { file with producerTopic := some "2024" } (Environment.layer []) {} =
        .ok { consumerTopics := ["in"], producerTopic := "2024" } := by
  intro file
  refine ⟨⟨by decide, List.all_eq_true.1 (by decide)⟩, ?_, ?_, ?_⟩
  all_goals decide +kernel

end Settings
end OctetRelay
