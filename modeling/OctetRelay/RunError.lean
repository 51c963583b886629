/-
# Why a run ends without counters

A run is refused because of its settings or of the clients they ask for, or it
ends before its loop starts: the subscription fails, or shutdown is requested
while a topic is missing.  What goes wrong with single messages never ends up
here.

Source: `ProcessorError`; `SPEC_FULL.md` 12.
-/

import OctetRelay.Client.Error
import OctetRelay.Settings.Fault

namespace OctetRelay

/-- What is wrong with a configuration. -/
inductive ConfigurationFault where
  | settings (error : SettingsError)
  | client (error : Client.Error)
  | described (reason : String)
  deriving DecidableEq, Repr

/-- The text of a configuration fault. -/
def ConfigurationFault.message : ConfigurationFault → String
  | .settings error => error.message
  | .client error => error.message
  | .described reason => reason

/-- Why a run ended without counters. -/
inductive RunError where
  | configuration (fault : ConfigurationFault)
  /-- The brokers could not be asked or did not answer. -/
  | broker (reason : String)
  | subscription (topics : List String) (reason : String)
  /-- Shutdown was requested while these topics were still missing. -/
  | cancelled (pending : List String)
  deriving DecidableEq, Repr

/-- The text of a run error. -/
def RunError.message : RunError → String
  | .configuration fault => "configuration error: " ++ fault.message
  | .broker reason => "kafka error: " ++ reason
  | .subscription topics reason =>
    "failed to subscribe to " ++ Text.quotedList topics ++ ": " ++ reason
  | .cancelled pending =>
    "shutdown requested while waiting for topics " ++ Text.quotedList pending

end OctetRelay
