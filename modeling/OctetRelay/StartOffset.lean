/-
# Where a consumer starts

The starting position in a consumed topic is one of three policies or an
explicit offset.  Its text is a word or a decimal integer; an explicit offset
read from a text is never negative.

Source: `StartOffset`, `from_str` and `auto_offset_reset`; `SPEC_FULL.md` 3 and
14, the starting position.
-/

import OctetRelay.Text.Blank
import OctetRelay.Text.Integer
import OctetRelay.Text.Quoted

namespace OctetRelay

/-- Why the text of a setting was refused. -/
inductive TextFault where
  | integer (fault : Text.IntegerFault)
  | negativeOffset
  | described (reason : String)
  deriving DecidableEq, Repr

/-- The reason for a refusal. -/
def TextFault.message : TextFault → String
  | .integer fault => fault.message
  | .negativeOffset => "explicit offsets must not be negative"
  | .described reason => reason

/-- A setting whose text was refused. -/
structure MalformedSetting where
  key : String
  value : String
  fault : TextFault
  deriving DecidableEq, Repr

/-- The text of a refusal, with the setting's own text between quotes. -/
def MalformedSetting.message (setting : MalformedSetting) : String :=
  "Invalid value " ++ Text.quoted setting.value ++ " for " ++ setting.key ++ ": "
    ++ setting.fault.message

/-- The starting position in the consumed topic. -/
inductive StartOffset where
  /-- The oldest message available. -/
  | beginning
  /-- Only messages produced after the consumer joins. -/
  | ending
  /-- The offset its group committed. -/
  | stored
  | explicit (offset : Int64)
  deriving DecidableEq, Repr

namespace StartOffset

/-- The text of a position. -/
def text : StartOffset → String
  | .beginning => "beginning"
  | .ending => "end"
  | .stored => "stored"
  | .explicit offset => toString offset.toInt

/-- What a group without a committed offset does, where the position decides it. -/
def autoOffsetReset? : StartOffset → Option String
  | .beginning => some "earliest"
  | .ending => some "latest"
  | .stored | .explicit _ => none

/-- Reads a position; blank characters around it do not count. -/
def read (text : String) : Except MalformedSetting StartOffset :=
  let trimmed := Text.trim text
  let refuse (fault : TextFault) : Except MalformedSetting StartOffset :=
    .error { key := "offset", value := trimmed, fault }
  if trimmed = "beginning" then .ok .beginning
  else if trimmed = "end" then .ok .ending
  else if trimmed = "stored" then .ok .stored
  else
    match Text.readInteger .signed64 trimmed.toList with
    | .error fault => refuse (.integer fault)
    | .ok offset => if offset < 0 then refuse .negativeOffset else .ok (.explicit (.ofInt offset))

end StartOffset
end OctetRelay
