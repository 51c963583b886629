/-
# Whether a consumer hears of partition ends

A run that is to stop at the ends of its partitions has to hear of them.  The
consumer is told so by a property that is built in, and client properties come
after what is built in.  So whatever gives client properties can take it back:

| set by | stops at the ends | hears of them |
| --- | --- | --- |
| the command line | yes | - |
| the environment | by its own variable | by a client property |
| the file | - | by a client property |
| built in | no | yes |

The two are decided apart, and in both the higher line counts before the lower
one (`partitionEof_of_load`).  So a consumer hears of the ends unless the
environment or the file says otherwise, and a file that does so is loaded and
valid together with a command line that waits for them
(`partitionEof_taken_back`).

The environment is any one with which the settings load.  Its values need not
fit the settings where a higher layer hides them, so the proof goes back from
what was read to what shows in each layer (`Gives.eq_of_merge`).

Source: `client_config` of the consumer and `load`; `SPEC_FULL.md` 4.4,
Consumer-Producer Loop, and 11, the merged sources and the properties that are
passed on verbatim.
-/

import OctetRelay.Command.Arguments
import OctetRelay.Proofs.ClientSettings

namespace OctetRelay

open Dictionary (get? last?)

namespace SettingsLayer

/-- A file does not say whether to stop at the ends of the partitions. -/
theorem exitOnEof_of_routeAll {layer after : SettingsLayer} {entries : List (String × String)}
    (h : (routeAll layer entries).result = .ok after) : after.exitOnEof = layer.exitOnEof := by
  rw [routeAll_eq] at h
  simp only at h
  split at h
  · cases h
  · exact Except.ok.inj h ▸ foldl_put_of_untouched (·.exitOnEof) (fun _ _ => rfl) _ _

end SettingsLayer

namespace Environment

/-- Whether the entries of an environment say to stop at the ends of the partitions. -/
def exitOnEof? (entries : List (String × Value)) : Option Bool :=
  (get? "exit_on_eof" entries).bind Value.flag?

/-- The text that the entries of an environment give to a client property. -/
def property? (entries : List (String × Value)) (key : String) : Option String :=
  (SettingsLayer.properties? entries).bind fun properties =>
    (get? key properties).bind Value.text?

end Environment

namespace Settings

open SettingsLayer (Tidy Gives)

/-- What loads has a file whose values can be read. -/
theorem exists_layer_of_load {path text : String} {environment : List (String × Value)}
    {commandLine : SettingsLayer} {settings : Settings}
    (h : (load path (.ok text) environment commandLine).result = .ok settings) :
    ∃ layer, (SettingsLayer.ofProperties (Properties.parse text)).result = .ok layer ∧
      ofLayers layer environment commandLine = .ok settings := by
  simp only [load] at h
  split at h
  · cases h
  · rename_i layer hlayer
    exact ⟨layer, hlayer, h⟩

section Loaded

variable {file commandLine : SettingsLayer} {entries : List (String × Value)} {settings : Settings}
  (htidy : Tidy entries) (h : ofLayers file entries commandLine = .ok settings)

include htidy h

/-- **Whether a loaded run stops at the ends of its partitions** is decided by the highest layer that
says so. -/
theorem exitOnEof_of_ofLayers :
    settings.exitOnEof =
      (commandLine.exitOnEof.or ((Environment.exitOnEof? entries).or file.exitOnEof)).getD
        false := by
  have hread := ofEntries_eq_ok_iff.1 (ok_of_mapError h) .exitOnEof (by simp [Field.byName])
  obtain ⟨given, hgives, hflag⟩ := gives_of_readUnder_exitOnEof hread
  have hcommandLine := SettingsLayer.writes_toEntries commandLine .commandLine
  have hordered := (SettingsLayer.tidy_toEntries commandLine .commandLine).ordered
  -- From the top down: where a layer has nothing under the name, the one below it shows.
  have hgiven := hgives.eq_of_merge (fun _ _ => rfl) hordered fun hbelow =>
    hbelow.eq_of_merge (fun _ _ => rfl) htidy.ordered fun hfile =>
      hfile.unique (writes_file file).exitOnEof
  rw [hcommandLine.exitOnEof.bind_eq] at hgiven
  rw [Environment.exitOnEof?, ← hgiven]
  exact hflag

/-- **The client properties that are loaded** are those of the environment, and else those of the
file, if the command line gives none. -/
theorem kafka_of_ofLayers (hkafka : commandLine.kafka = .empty) (key : String) :
    settings.kafka.get? key = (Environment.property? entries key).or (file.kafka.get? key) := by
  have hread := ofEntries_eq_ok_iff.1 (ok_of_mapError h) .kafka (by simp [Field.byName])
  obtain ⟨properties, hproperties, hgives⟩ :=
    gives_of_readUnder_kafka (tidy_mergeLayers file commandLine htidy) hread
  have hbelow : SettingsLayer.properties? (mergeLayers file entries commandLine) =
      SettingsLayer.properties? (Value.mergeEntries
        (Value.mergeEntries [("kafka", .dict .defaults [])] (file.toEntries .file)) entries) := by
    have hordered := (SettingsLayer.tidy_toEntries commandLine .commandLine).ordered
    have hnone : get? "kafka" (commandLine.toEntries .commandLine) = none := by
      rw [SettingsLayer.get?_kafka_toEntries, hkafka]
      rfl
    rw [SettingsLayer.properties?, mergeLayers, Value.get?_mergeEntries hordered, hnone]
    rfl
  rw [hbelow] at hproperties
  obtain ⟨lower, hlower, hfile⟩ := (writes_file file).kafka
  obtain ⟨upper, hupper⟩ := SettingsLayer.exists_properties_of_merge htidy.ordered hproperties
  rw [SettingsLayer.properties?_mergeEntries htidy hupper hlower] at hproperties
  obtain rfl := Option.some.inj hproperties
  rw [Environment.property?, hupper, Option.bind_some]
  exact (hgives key).eq_of_merge (fun _ _ => rfl) (htidy.properties upper hupper) fun hshown =>
    hshown.unique (hfile key)

end Loaded

end Settings

namespace Client

/-- **Whether a run stops at partition ends, and whether its consumer hears of them.**

Whatever file, environment and command line load: the run stops at the ends of its partitions if the
command line or else the environment says so, and the consumer has the text that the environment
gives to `enable.partition.eof`, else the last value that the file gives to it, else `true`. -/
theorem partitionEof_of_load {path text : String} {assignments : List (String × String)}
    {options : Command.Options} {settings : Settings}
    (hload : (Settings.load path (.ok text) (Environment.layer assignments) options.layer).result =
      .ok settings) :
    let environment := Environment.layer assignments
    settings.exitOnEof = (options.exitOnEof || (Environment.exitOnEof? environment).getD false) ∧
      (properties .consumer settings).get? "enable.partition.eof" =
        some (((Environment.property? environment "enable.partition.eof").or
          (last? (· == "enable.partition.eof") (Properties.parse text).entries)).getD "true") := by
  intro environment
  obtain ⟨layer, hlayer, hlayers⟩ := Settings.exists_layer_of_load hload
  have htidy := Environment.tidy_layer assignments
  have hroutes := SettingsLayer.routes_of_routeAll hlayer
  have hexit : layer.exitOnEof = none := SettingsLayer.exitOnEof_of_routeAll hlayer
  constructor
  · rw [Settings.exitOnEof_of_ofLayers htidy hlayers, hexit, Option.or_none, Command.Options.layer]
    cases options.exitOnEof with
    | false => rw [if_neg Bool.false_ne_true, Option.none_or, Bool.false_or]
    | true => rfl
  · have hkafka := Settings.kafka_of_ofLayers htidy hlayers rfl "enable.partition.eof"
    have hforwarded : SettingsLayer.isForwarded "enable.partition.eof" = true := rfl
    rw [hroutes.kafka, if_pos hforwarded, PropertyMap.get?_empty, Option.or_none] at hkafka
    have hlast : lastSet? .consumer settings "enable.partition.eof" = none := rfl
    have hbuiltIn : builtIn? .consumer settings "enable.partition.eof" = some "true" := rfl
    rw [get?_properties, hlast, hkafka, hbuiltIn, Option.none_or, Option.or_some]

/-- The environment asks a run to stop at the ends of its partitions and tells its consumer not to
announce them, over a file that says the opposite of the latter. -/
theorem partitionEof_of_load_environment :
    let text := "asn1.j2735.topic.consumer = in\nasn1.j2735.topic.producer = out\n" ++
      "enable.partition.eof = true"
    let assignments :=
      [("ACM_EXIT_ON_EOF", "true"), ("ACM_KAFKA", "\x7b\"enable.partition.eof\"=\"false\"\x7d")]
    let options : Command.Options := { config := some "acm.properties" }
    let settings : Settings :=
      { consumerTopics := ["in"], producerTopic := "out", exitOnEof := true
        kafka := .ofList [("enable.partition.eof", "false")] }
    (Settings.load "acm.properties" (.ok text) (Environment.layer assignments)
        options.layer).result = .ok settings ∧
      settings.exitOnEof = true ∧
      (properties .consumer settings).get? "enable.partition.eof" = some "false" := by
  intro text assignments options settings
  have hload : (Settings.load "acm.properties" (.ok text) (Environment.layer assignments)
      options.layer).result = .ok settings := by
    decide +kernel
  obtain ⟨-, hproperty⟩ := partitionEof_of_load hload
  have hgiven : Environment.property? (Environment.layer assignments) "enable.partition.eof" =
      some "false" := by
    decide +kernel
  rw [hgiven] at hproperty
  exact ⟨hload, rfl, hproperty⟩

/-- **A file can take the built-in value back** from a run that waits for the ends of its
partitions: the settings load and are valid, the run is to stop at the ends, and the consumer is
told not to announce them. -/
theorem partitionEof_taken_back :
    let text := "asn1.j2735.topic.consumer = in\nasn1.j2735.topic.producer = out\n" ++
      "enable.partition.eof = false"
    let options : Command.Options := { config := some "acm.properties", exitOnEof := true }
    ∃ settings, Command.read ["-c", "acm.properties", "-x"] =
        .ok (.run "acm.properties" options) ∧
      (Settings.load "acm.properties" (.ok text) (Environment.layer []) options.layer).result =
        .ok settings ∧
      settings.validate = .ok () ∧ settings.exitOnEof = true ∧
      (properties .consumer settings).get? "enable.partition.eof" = some "false" ∧
      (properties .consumer settings).get? "enable.partition.eof" ≠ some "true" := by
  let settings : Settings :=
    { consumerTopics := ["in"], producerTopic := "out", exitOnEof := true
      kafka := .ofList [("enable.partition.eof", "false")] }
  refine ⟨settings, rfl, ?_, ?_, rfl, ?_, ?_⟩
  all_goals decide +kernel

end Client
end OctetRelay
