/-
# Settings that cannot be used

The ways in which settings fail: their file cannot be read, a text is
malformed, a required setting is missing, a rule is broken, or the layers do
not fit together.

Source: `ConfigError` and `validate`; `SPEC_FULL.md` 11, validation.
-/

import OctetRelay.Settings.Basic
import OctetRelay.Settings.Value

namespace OctetRelay

/-- Why a file could not be read or made. -/
inductive FileFault where
  | notFound
  | exists
  | notDirectory
  | isDirectory
  | nameTooLong
  | tooManyLinks
  /-- The system refuses, and gives a reason. -/
  | refused (reason : String)
  /-- The file holds octets that are no text. -/
  | notText
  deriving DecidableEq, Repr

/-- The text of a file fault, with the number of its system error. -/
def FileFault.message : FileFault → String
  | .notFound => "No such file or directory (os error 2)"
  | .exists => "File exists (os error 17)"
  | .notDirectory => "Not a directory (os error 20)"
  | .isDirectory => "Is a directory (os error 21)"
  | .nameTooLong => "File name too long (os error 36)"
  | .tooManyLinks => "Too many levels of symbolic links (os error 40)"
  | .refused reason => reason
  | .notText => "stream did not contain valid UTF-8"

/-- Why layers of settings do not fit together. -/
inductive LoadFault where
  | misfit (misfit : Misfit)
  | described (reason : String)
  deriving DecidableEq, Repr

/-- The text of a load fault. -/
def LoadFault.message : LoadFault → String
  | .misfit found => found.message
  | .described reason => reason

/-- Why settings cannot be used. -/
inductive SettingsError where
  | unreadable (path : String) (fault : FileFault)
  | malformed (setting : MalformedSetting)
  | missing (setting : RequiredSetting)
  | invalid (violation : Violation)
  | unloadable (fault : LoadFault)
  deriving DecidableEq, Repr

/-- The text of a settings error. -/
def SettingsError.message : SettingsError → String
  | .unreadable path fault => "Cannot open configuration file " ++ path ++ ": " ++ fault.message
  | .malformed setting => setting.message
  | .missing setting => "No " ++ setting.text ++ " was specified"
  | .invalid violation => "Invalid configuration: " ++ violation.message
  | .unloadable fault => "Failed to load configuration: " ++ fault.message

namespace Settings

/-- What is wrong with the consumed topics: exactly one is needed, and not a blank one. -/
def topicFault? : List String → Option SettingsError
  | [] => some (.missing .consumerTopic)
  | [topic] => if Text.isBlankText topic then some (.missing .consumerTopic) else none
  | topics => some (.invalid (.severalConsumerTopics topics.length))

/-- What is wrong with the partition: a negative one names no partition. -/
def partitionFault? : Option Int32 → Option SettingsError
  | some partition => if partition < 0 then some (.invalid (.negativePartition partition)) else none
  | none => none

/-- The first rule that the settings break, in the order in which the rules are tried. -/
def fault? (settings : Settings) : Option SettingsError :=
  if Text.isBlankText settings.brokers then some (.invalid .noBrokers)
  else
    match topicFault? settings.consumerTopics with
    | some fault => some fault
    | none =>
      if Text.isBlankText settings.producerTopic then some (.missing .producerTopic)
      else if settings.consumerTimeoutMs = 0 then some (.invalid .noTimeout)
      else if settings.partitionCount = 0 then some (.invalid .noPartitionCount)
      else partitionFault? settings.partition

/-- Whether the settings keep all the rules. -/
def validate (settings : Settings) : Except SettingsError Unit :=
  match settings.fault? with
  | some fault => .error fault
  | none => .ok ()

end Settings
end OctetRelay
