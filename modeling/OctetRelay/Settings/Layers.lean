/-
# Layered settings

The effective settings come from four layers, each over the one before it: the
defaults, the configuration file, the environment and the command line.

Source: `load` and `from_layers`; `SPEC_FULL.md` 11, sources from the lowest to
the highest precedence.
-/

import OctetRelay.Settings.Environment
import OctetRelay.Settings.Fault
import OctetRelay.Settings.Layer
import OctetRelay.Settings.Reading

namespace OctetRelay
namespace Settings

/-- The layers, merged from the lowest to the highest.  The defaults stand for no more than the
empty dictionary of client properties, since a setting that no layer gives keeps its default. -/
def mergeLayers (file : SettingsLayer) (environment : List (String × Value))
    (commandLine : SettingsLayer) : List (String × Value) :=
  let defaults := [("kafka", Value.dict .defaults [])]
  let withFile := Value.mergeEntries defaults (file.toEntries .file)
  let withEnvironment := Value.mergeEntries withFile environment
  Value.mergeEntries withEnvironment (commandLine.toEntries .commandLine)

/-- The settings that the layers give. -/
def ofLayers (file : SettingsLayer) (environment : List (String × Value))
    (commandLine : SettingsLayer) : Except SettingsError Settings :=
  (ofEntries (mergeLayers file environment commandLine)).mapError fun misfit =>
    .unloadable (.misfit misfit)

/-- Settings loaded from a file, and what was logged on the way. -/
structure Loaded where
  events : List Event
  result : Except SettingsError Settings

/-- Loads the settings.  The file comes as its text, or with the fault of reading it. -/
def load (path : String) (file : Except FileFault String) (environment : List (String × Value))
    (commandLine : SettingsLayer) : Loaded :=
  match file with
  | .error fault => { events := [], result := .error (.unreadable path fault) }
  | .ok text =>
    let properties := Properties.parse text
    let skipped := properties.skipped.map Event.lineSkipped
    let routed := SettingsLayer.ofProperties properties
    { events := skipped ++ routed.events
      result :=
        match routed.result with
        | .error setting => .error (.malformed setting)
        | .ok layer => ofLayers layer environment commandLine }

end Settings
end OctetRelay
