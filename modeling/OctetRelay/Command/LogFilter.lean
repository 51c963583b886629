/-
# What goes into the logs

The information log takes events from a threshold on.  The threshold comes from
the command line, unless the environment gives directives: a list with commas
between its items.  Of the directives about an event the most demanding one
decides, and an event that none is about is not logged.

Source: `parse_level` and `init`; `SPEC_FULL.md` 10, the two logs.
-/

import OctetRelay.Command.LogDirective

namespace OctetRelay

/-- A text that was meant to be a directive, and why it is none. -/
structure RefusedDirective where
  text : String
  fault : DirectiveFault
  deriving DecidableEq, Repr

/-- The complaint about a text that is no directive. -/
def RefusedDirective.message (refused : RefusedDirective) : String :=
  "ignoring `" ++ refused.text ++ "`: " ++ refused.fault.message

/-- The directives of a log, and the texts that were meant to be some. -/
structure LogFilter where
  directives : List LogDirective
  refused : List RefusedDirective := []
  deriving DecidableEq, Repr

namespace LogFilter

/-- The filter of a list of texts. -/
def ofTexts : List String → LogFilter
  | [] => { directives := [] }
  | text :: rest =>
    let filter := ofTexts rest
    match LogDirective.read text with
    | .ok directive => { filter with directives := directive :: filter.directives }
    | .error fault => { filter with refused := { text, fault } :: filter.refused }

/-- Reads the directives of the environment; the threshold counts if there are none. -/
def read (threshold : Threshold) (text : String) : LogFilter :=
  let items := ((Text.pieces ',' text.toList).map String.ofList).filter fun item => item ≠ ""
  let filter := ofTexts items
  if filter.directives.isEmpty then { filter with directives := [{ threshold }] } else filter

/-- The more demanding one of two directives about one event. -/
def prefer (best : Option LogDirective) (directive : LogDirective) : Option LogDirective :=
  match best with
  | none => some directive
  | some earlier => if directive.overrides earlier then some directive else best

/-- Whether an event is logged. -/
def admits (filter : LogFilter) (event : Event) : Bool :=
  match (filter.directives.filter fun directive => directive.covers event).foldl prefer none with
  | some directive => directive.threshold.admits event.level
  | none => false

/-- The filter of the error log: warnings and errors. -/
def grave : LogFilter := { directives := [{ threshold := some .warn }] }

end LogFilter
end OctetRelay
