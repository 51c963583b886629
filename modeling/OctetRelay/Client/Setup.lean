/-
# The properties of a client that were set

Properties are set one after the other, on the client as a whole or on its
topics; the values for topics exist once a property was looked for among those
of topics.  The first refusal ends the setting.

Source: `SPEC_FULL.md` 7, the failures of client construction; the order in
which a client takes its properties.
-/

import OctetRelay.Client.Catalogue
import OctetRelay.Client.Error
import OctetRelay.Dictionary
import OctetRelay.Text.Utf8

namespace OctetRelay
namespace Client

/-- Values of properties under their first names, in key order. -/
abbrev PropertyValues := List (String × PropertyValue)

namespace PropertyValues

/-- Whether a property was set. -/
def isSet (values : PropertyValues) (name : String) : Bool := (Dictionary.get? name values).isSome

/-- The integer that a property was set to. -/
def integer? (values : PropertyValues) (name : String) : Option Int :=
  match Dictionary.get? name values with
  | some (.integer number) => some number
  | _ => none

/-- The integer of a property that is the standard one unless it was set. -/
def integer (values : PropertyValues) (name : String) (standard : Int) : Int :=
  (values.integer? name).getD standard

/-- Whether a property was set to another integer than one that is allowed. -/
def isOutside (values : PropertyValues) (name : String) (allowed : Int → Bool) : Bool :=
  (values.integer? name).any fun number => !allowed number

/-- The flag that a property was set to. -/
def flag? (values : PropertyValues) (name : String) : Option Bool :=
  match Dictionary.get? name values with
  | some (.flag isOn) => some isOn
  | _ => none

/-- The text that a property was set to; without one the standard text counts. -/
def text? (values : PropertyValues) (name : String) (standard : Option String) : Option String :=
  match Dictionary.get? name values with
  | some (.text value) => value
  | _ => standard

/-- The measure that a property was set to. -/
def measure? (values : PropertyValues) (name : String) : Option Measure :=
  match Dictionary.get? name values with
  | some (.decimal measure) => some measure
  | _ => none

/-- The word that a property was set to. -/
def choice? (values : PropertyValues) (name : String) : Option String :=
  match Dictionary.get? name values with
  | some (.choice word) => some word
  | _ => none

/-- The words of a property that are in force. -/
def flags (values : PropertyValues) (name : String) : List String :=
  match Dictionary.get? name values with
  | some (.flags words) => words
  | _ => []

/-- Sets a property: the values then, or why the value was refused. -/
def set (values : PropertyValues) (property : Property) (value : String) :
    Except PropertyFault PropertyValues := do
  match ← property.take (Dictionary.get? property.name values) value with
  | none => return values
  | some taken => return Dictionary.insert property.name taken values

end PropertyValues

/-- The properties that were set on a client. -/
structure Setup where
  ofClient : PropertyValues := []
  /-- The values for topics, if there are any. -/
  ofTopics : Option PropertyValues := none
  deriving DecidableEq

namespace Setup

/-- How many octets the text of a refusal has at most. -/
def longestReason : Nat := 511

/-- A text cut down to a number of octets. -/
def cut (limit : Nat) (text : String) : String :=
  Text.decodeLenient (text.toUTF8.toList.take limit)

/-- Whether a text holds the character that ends texts of the client. -/
def hasEnd (text : String) : Bool := text.toList.contains '\x00'

/-- Sets one property. -/
def set (setup : Setup) (key value : String) : Except Error Setup :=
  let refuse (name : String) (fault : PropertyFault) : Error :=
    .property (cut longestReason (fault.message name)) key value
  if hasEnd key || hasEnd value then .error .foreignText
  else
    match Catalogue.clientProperty? key with
    | some property =>
      match setup.ofClient.set property value with
      | .error fault => .error (refuse property.name fault)
      | .ok values => .ok { setup with ofClient := values }
    | none =>
      match Catalogue.topicProperty? key with
      | none => .error (refuse (Catalogue.topicName key) .unknown)
      | some property =>
        match PropertyValues.set (setup.ofTopics.getD []) property value with
        | .error fault => .error (refuse property.name fault)
        | .ok values => .ok { setup with ofTopics := some values }

/-- Sets properties on top of others, up to the first one that is refused. -/
def setAll (setup : Setup) : List (String × String) → Except Error Setup
  | [] => .ok setup
  | (key, value) :: rest => do setAll (← setup.set key value) rest

end Setup
end Client
end OctetRelay
