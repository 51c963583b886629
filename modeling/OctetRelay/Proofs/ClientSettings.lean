/-
# From a file to the clients

Client properties are set after the ones that are built in and may replace
them.  So a key of the file that is also a setting of its own, by name or by
another name, must not be among them: it would take effect over the command
line.  `Routes` says where the values of a file go, and that none of those keys
is forwarded; `properties_of_file` follows the values on to the two clients.

Source: `from_properties` and `client_config`; `SPEC_FULL.md` 11, the keys of a
file.
-/

import OctetRelay.Client.Configuration
import OctetRelay.Proofs.FileLayer
import OctetRelay.Proofs.Precedence

namespace OctetRelay

open Dictionary (last?)

namespace SettingsLayer

/-- Where the values of a file go, on top of a layer: the last one of a key counts. -/
structure Routes (layer : SettingsLayer) (entries : List (String × String))
    (after : SettingsLayer) : Prop where
  brokers : after.brokers = (last? namesBrokers entries).or layer.brokers
  groupId : after.groupId = (last? (· == "group.id") entries).or layer.groupId
  debug : after.debug = (last? (· == "debug") entries).or layer.debug
  offset : after.offset = layer.offset
  kafka : ∀ key, after.kafka.get? key =
    (if isForwarded key then last? (· == key) entries else none).or (layer.kafka.get? key)

/-- **Where the values of a file go.** -/
theorem routes_of_routeAll {layer after : SettingsLayer} {entries : List (String × String)}
    (h : (routeAll layer entries).result = .ok after) : Routes layer entries after := by
  rw [routeAll_eq] at h
  simp only at h
  split at h
  · cases h
  · obtain rfl := Except.ok.inj h
    exact
      { brokers := text_foldl_put (·.brokers) _ (fun _ _ => rfl) _ _
        groupId := text_foldl_put (·.groupId) _ (fun _ _ => rfl) _ _
        debug := text_foldl_put (·.debug) _ (fun _ _ => rfl) _ _
        offset := foldl_put_of_untouched (·.offset) (fun _ _ => rfl) _ _
        kafka := fun key => get?_kafka_foldl_put key _ _ }

end SettingsLayer

namespace Settings

open SettingsLayer (Routes namesBrokers isForwarded)

/-- Settings whose values come from the command line, from the entries of a file and from the
defaults, as far as the clients are set up with them. -/
structure FromFile (commandLine : SettingsLayer) (entries : List (String × String))
    (settings : Settings) : Prop where
  brokers :
    settings.brokers = (commandLine.brokers.or (last? namesBrokers entries)).getD "localhost"
  groupId :
    settings.groupId = (commandLine.groupId.or (last? (· == "group.id") entries)).getD "asn1-codec"
  debug : settings.debug = commandLine.debug.or (last? (· == "debug") entries)
  offset : settings.offset = commandLine.offset
  kafka : ∀ key, settings.kafka.get? key =
    if isForwarded key then last? (· == key) entries else none

/-- Over the layer of a file the command line gives settings that come from both. -/
theorem fromFile {entries : List (String × String)} {layer commandLine : SettingsLayer}
    (hroutes : Routes {} entries layer) (hkafka : commandLine.kafka = .empty) :
    FromFile commandLine entries (commandLine.atop layer).settings where
  brokers := by
    simp [SettingsLayer.settings, SettingsLayer.atop, hroutes.brokers]
  groupId := by
    simp [SettingsLayer.settings, SettingsLayer.atop, hroutes.groupId]
  debug := by
    simp [SettingsLayer.settings, SettingsLayer.atop, hroutes.debug]
  offset := by
    simp [SettingsLayer.settings, SettingsLayer.atop, hroutes.offset]
  kafka := fun key => by
    simp [SettingsLayer.atop, hroutes.kafka, hkafka]

/-- **What loads from a file without an environment.** -/
theorem ofLayers_of_file {entries : List (String × String)} {layer commandLine : SettingsLayer}
    {assignments : List (String × String)} (hroutes : Routes {} entries layer)
    (hkafka : commandLine.kafka = .empty)
    (hassignments : ∀ assignment ∈ assignments, Environment.path? assignment.1 = none) :
    ((∃ settings, ofLayers layer (Environment.layer assignments) commandLine = .ok settings) ↔
      commandLine.offset.any StartOffset.isNegative = false) ∧
    ∀ settings, ofLayers layer (Environment.layer assignments) commandLine = .ok settings →
      FromFile commandLine entries settings := by
  have hresult := ofLayers_of_writes layer commandLine (Environment.tidy_layer assignments)
    (Environment.writes_layer hassignments)
  have hoffset : (commandLine.atop layer).offset = commandLine.offset := by
    simp [SettingsLayer.atop, hroutes.offset]
  simp only [SettingsLayer.empty_atop, hoffset] at hresult
  split at hresult
  · rename_i hneg
    obtain ⟨misfit, -, herror⟩ := hresult
    rw [herror, hneg]
    simp
  · rename_i hpos
    rw [hresult]
    refine ⟨⟨fun _ => Bool.eq_false_iff.2 hpos, fun _ => ⟨_, rfl⟩⟩, fun settings h => ?_⟩
    exact Except.ok.inj h ▸ fromFile hroutes hkafka

end Settings

namespace Client

open Settings (ofLayers)
open SettingsLayer (isForwarded isOwn)

/-- What is set on a client before the client properties. -/
def builtIn? (role : Role) (settings : Settings) (key : String) : Option String :=
  if key = "bootstrap.servers" then some settings.brokers
  else
    match role with
    | .producer => none
    | .consumer =>
      if key = "group.id" then some settings.groupId
      else if key = "enable.partition.eof" then some "true"
      else none

/-- What is set on a client after the client properties. -/
def lastSet? (role : Role) (settings : Settings) (key : String) : Option String :=
  if key = "debug" then settings.debug
  else
    match role with
    | .producer => none
    | .consumer =>
      if key = "auto.offset.reset" then settings.offset.bind StartOffset.autoOffsetReset?
      else none

/-- Nothing else is built in. -/
theorem builtIn?_eq_none {key : String} (hbrokers : key ≠ "bootstrap.servers")
    (hgroupId : key ≠ "group.id") (heof : key ≠ "enable.partition.eof") (role : Role)
    (settings : Settings) : builtIn? role settings key = none := by
  cases role <;> simp [builtIn?, hbrokers, hgroupId, heof]

/-- Nothing else is set last. -/
theorem lastSet?_eq_none {key : String} (hdebug : key ≠ "debug")
    (hreset : key ≠ "auto.offset.reset") (role : Role) (settings : Settings) :
    lastSet? role settings key = none := by
  cases role <;> simp [lastSet?, hdebug, hreset]

/-- **The properties of a client** are those that are set last, else the client properties of the
settings, else those that are built in. -/
theorem get?_properties (role : Role) (settings : Settings) (key : String) :
    (properties role settings).get? key =
      (lastSet? role settings key).or
        ((settings.kafka.get? key).or (builtIn? role settings key)) := by
  cases role with
  | producer =>
    simp only [properties, producerProperties, PropertyMap.get?_insert?, PropertyMap.get?_union,
      PropertyMap.get?_insert, PropertyMap.get?_empty, lastSet?, builtIn?, eq_comm (b := key)]
    by_cases hdebug : key = "debug"
    · rw [if_pos hdebug, if_pos hdebug]
    · rw [if_neg hdebug, if_neg hdebug, Option.none_or]
  | consumer =>
    simp only [properties, consumerProperties, PropertyMap.get?_insert?, PropertyMap.get?_union,
      PropertyMap.get?_insert, PropertyMap.get?_empty, lastSet?, builtIn?, eq_comm (b := key)]
    by_cases hdebug : key = "debug"
    · subst hdebug
      rfl
    rw [if_neg hdebug, if_neg hdebug]
    by_cases hreset : key = "auto.offset.reset"
    · subst hreset
      rfl
    rw [if_neg hreset, if_neg hreset, Option.none_or]
    by_cases hbrokers : key = "bootstrap.servers"
    · subst hbrokers
      rfl
    rw [if_neg hbrokers, if_neg hbrokers]
    by_cases hgroupId : key = "group.id"
    · subst hgroupId
      rfl
    rw [if_neg hgroupId, if_neg hgroupId]

section FromFile

variable {commandLine : SettingsLayer} {entries : List (String × String)} {settings : Settings}
  (h : Settings.FromFile commandLine entries settings)

include h

/-- A key of a file that the clients share with the settings does not come from the file directly.
-/
theorem get?_of_reserved {key : String} (hkey : isForwarded key = false) (role : Role) :
    (properties role settings).get? key =
      (lastSet? role settings key).or (builtIn? role settings key) := by
  rw [get?_properties, h.kafka, if_neg (Bool.eq_false_iff.1 hkey), Option.none_or]

/-- A key of a file that only the clients know comes from the file before what is built in. -/
theorem get?_of_isForwarded {key : String} (hkey : isForwarded key = true) (role : Role) :
    (properties role settings).get? key =
      (lastSet? role settings key).or
        ((last? (· == key) entries).or (builtIn? role settings key)) := by
  rw [get?_properties, h.kafka, if_pos hkey]

/-- The policy of the command line counts before the one of the file. -/
theorem get?_reset : (properties .consumer settings).get? "auto.offset.reset" =
    (commandLine.offset.bind StartOffset.autoOffsetReset?).or
      (last? (· == "auto.offset.reset") entries) := by
  rw [get?_of_isForwarded h rfl, ← h.offset]
  exact congrArg _ Option.or_none

/-- **A key of a file that has no other meaning** has its last value in both clients. -/
theorem get?_of_last? {key value : String} (hvalue : last? (· == key) entries = some value)
    (hkey : isForwarded key = true) (hreset : key ≠ "auto.offset.reset") (role : Role) :
    (properties role settings).get? key = some value := by
  have hdebug : key ≠ "debug" := fun heq => absurd (heq ▸ hkey) (by decide)
  rw [get?_of_isForwarded h hkey, lastSet?_eq_none hdebug hreset, hvalue]
  rfl

/-- **A key like the program's own** is in neither client. -/
theorem get?_of_isOwn {key : String} (hown : isOwn key = true) (role : Role) :
    (properties role settings).get? key = none := by
  have hreserved : isForwarded key = false := by rw [isForwarded, hown]; rfl
  have hne {other : String} : isOwn other = false → key ≠ other := SettingsLayer.ne_of_isOwn hown
  rw [get?_of_reserved h hreserved, lastSet?_eq_none (hne rfl) (hne rfl),
    builtIn?_eq_none (hne rfl) (hne rfl) (hne rfl)]
  rfl

end FromFile

/-- **The command line counts before the file, in both clients.**  Over a file whose values can be
read, without variables in the environment, and with client properties in the file only: the
settings load unless the command line starts at an explicit offset below zero, and then each client
has the brokers, the group, the debug contexts and the starting policy of the command line, else the
last ones of the file, else the defaults.  All other keys of the file reach both clients with their
last values, except that no key like the program's own reaches any. -/
theorem properties_of_file {text : String} {layer commandLine : SettingsLayer}
    {assignments : List (String × String)}
    (hlayer : (SettingsLayer.ofProperties (Properties.parse text)).result = .ok layer)
    (hkafka : commandLine.kafka = .empty)
    (hassignments : ∀ assignment ∈ assignments, Environment.path? assignment.1 = none) :
    let result := ofLayers layer (Environment.layer assignments) commandLine
    let last (wanted : String → Bool) := last? wanted (Properties.parse text).entries
    ((∃ settings, result = .ok settings) ↔
      commandLine.offset.any StartOffset.isNegative = false) ∧
    ∀ settings, result = .ok settings →
      (∀ role, (properties role settings).get? "bootstrap.servers" =
        some ((commandLine.brokers.or
          (last fun key => key == "bootstrap.servers" || key == "metadata.broker.list")).getD
            "localhost")) ∧
      (∀ role, (properties role settings).get? "metadata.broker.list" = none) ∧
      (properties .consumer settings).get? "group.id" =
        some ((commandLine.groupId.or (last (· == "group.id"))).getD "asn1-codec") ∧
      (properties .producer settings).get? "group.id" = none ∧
      (∀ role, (properties role settings).get? "debug" =
        commandLine.debug.or (last (· == "debug"))) ∧
      (properties .consumer settings).get? "auto.offset.reset" =
        (match commandLine.offset with
          | some .beginning => some "earliest"
          | some .ending => some "latest"
          | _ => last (· == "auto.offset.reset")) ∧
      (properties .producer settings).get? "auto.offset.reset" =
        last (· == "auto.offset.reset") ∧
      (∀ role key value, last (· == key) = some value → ¬ "asn1.".toList <+: key.toList →
        key ∉ ["bootstrap.servers", "metadata.broker.list", "group.id", "debug",
          "auto.offset.reset"] →
        (properties role settings).get? key = some value) ∧
      (∀ role key, "asn1.".toList <+: key.toList → (properties role settings).get? key = none) := by
  intro result last
  obtain ⟨hloads, hfromFile⟩ := Settings.ofLayers_of_file
    (SettingsLayer.routes_of_routeAll hlayer) hkafka hassignments
  refine ⟨hloads, fun settings hsettings => ?_⟩
  have h := hfromFile settings hsettings
  refine ⟨fun role => ?_, fun role => ?_, ?_, get?_of_reserved h rfl .producer, fun role => ?_, ?_,
    ?_, fun role key value hvalue hown hkey => ?_, fun role key hown => ?_⟩
  · rw [get?_of_reserved h rfl]
    cases role <;> exact congrArg some h.brokers
  · rw [get?_of_reserved h rfl]
    cases role <;> rfl
  · rw [get?_of_reserved h rfl]
    exact congrArg some h.groupId
  · rw [get?_of_reserved h rfl]
    cases role <;> exact (Option.or_none).trans h.debug
  · rw [get?_reset h]
    cases commandLine.offset with
    | none => rfl
    | some offset => cases offset <;> rfl
  · rw [get?_of_isForwarded h rfl]
    exact Option.or_none
  · simp only [List.mem_cons, List.not_mem_nil, or_false, not_or] at hkey
    obtain ⟨hbrokers, halias, hgroupId, hdebug, hreset⟩ := hkey
    have hown : isOwn key = false :=
      Bool.eq_false_iff.2 fun heq => hown (List.isPrefixOf_iff_prefix.1 heq)
    refine get?_of_last? h hvalue ?_ hreset role
    simp [isForwarded, SettingsLayer.namesBrokers, hown, hbrokers, halias, hgroupId, hdebug]
  · exact get?_of_isOwn h (List.isPrefixOf_iff_prefix.2 hown) role

/-- The brokers of the command line count over both keys of a file that name brokers; the other
property of the file reaches the consumer, and the unknown one of the program does not. -/
theorem properties_of_file_below_brokers :
    let text := "bootstrap.servers = a:1\nacks = all\nmetadata.broker.list = b:2\nasn1.depth = 3"
    let layer : SettingsLayer := { brokers := some "b:2", kafka := .ofList [("acks", "all")] }
    let commandLine : SettingsLayer := { brokers := some "c:3", offset := some .beginning }
    let assignments := [("HOME", "/srv")]
    (SettingsLayer.ofProperties (Properties.parse text)).result = .ok layer ∧
      ∃ settings, ofLayers layer (Environment.layer assignments) commandLine = .ok settings ∧
        (properties .consumer settings).get? "bootstrap.servers" = some "c:3" ∧
        (properties .consumer settings).get? "auto.offset.reset" = some "earliest" ∧
        (properties .consumer settings).get? "acks" = some "all" ∧
        (properties .consumer settings).get? "asn1.depth" = none := by
  intro text layer commandLine assignments
  have hlayer : (SettingsLayer.ofProperties (Properties.parse text)).result = .ok layer := by
    decide +kernel
  have hassignments : ∀ assignment ∈ assignments, Environment.path? assignment.1 = none := by
    decide
  have hkafka : commandLine.kafka = .empty := rfl
  obtain ⟨hloads, hproperties⟩ := properties_of_file hlayer hkafka hassignments
  obtain ⟨settings, hsettings⟩ := hloads.2 rfl
  obtain ⟨hbrokers, -, -, -, -, hreset, -, hother, hown⟩ := hproperties settings hsettings
  exact ⟨hlayer, settings, hsettings, hbrokers .consumer, hreset,
    hother .consumer "acks" "all" (by decide +kernel) (by decide) (by decide),
    hown .consumer "asn1.depth" (by decide)⟩

end Client
end OctetRelay
