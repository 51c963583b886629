/-
# Shutdown handles

A handle says whether its run may go on.  Handles are made anew or cloned from
others; clones share one fate, so handles fall into families.  A request on one
handle stops its whole family for good, clones made later included, and no other
family.

Source: `ShutdownSignal`; `SPEC_FULL.md` 4.1, Shutdown Signal.
-/

import OctetRelay.Log

namespace OctetRelay

/-- The handles of a program, by number.  A family is known by its first handle. -/
structure ShutdownHandles where
  /-- The family of each handle. -/
  families : List Nat := [0]
  /-- The families for which shutdown was requested. -/
  stopped : List Nat := []
  deriving DecidableEq, Repr

/-- Something that is done with handles. -/
inductive ShutdownAction where
  /-- Makes a handle with a family of its own. -/
  | create
  /-- Makes another handle of the same family. -/
  | clone (handle : Nat)
  /-- Requests shutdown. -/
  | request (handle : Nat)
  deriving DecidableEq, Repr

namespace ShutdownHandles

/-- Does something with handles; an action on a handle that does not exist does nothing. -/
def apply (handles : ShutdownHandles) : ShutdownAction → ShutdownHandles
  | .create => { handles with families := handles.families ++ [handles.families.length] }
  | .clone handle =>
    { handles with families := handles.families ++ handles.families[handle]?.toList }
  | .request handle =>
    { handles with stopped := handles.stopped ++ handles.families[handle]?.toList }

/-- Whether the run of a handle may go on. -/
def isRunning (handles : ShutdownHandles) (handle : Nat) : Bool :=
  match handles.families[handle]? with
  | some family => !handles.stopped.contains family
  | none => false

/-- Whether they may go on, for all handles. -/
def running (handles : ShutdownHandles) : List Bool :=
  (List.range handles.families.length).map handles.isRunning

end ShutdownHandles

/-- The signals that request shutdown. -/
inductive TerminationSignal where
  | interrupt
  | terminate
  deriving DecidableEq, Repr

/-- What a signal listener has done by the time it is looked at. -/
structure Listened where
  handles : ShutdownHandles
  finished : Bool
  events : List Event

/-- Listens for a termination signal on behalf of a handle.  Either signal requests shutdown and
ends the listener; without one it goes on listening. -/
def listen (handles : ShutdownHandles) (handle : Nat) : Option TerminationSignal → Listened
  | some _ =>
    { handles := handles.apply (.request handle), finished := true, events := [.shutdownSignalled] }
  | none => { handles, finished := false, events := [] }

end OctetRelay
