/-
# ManagedLdap.Session.Guards -- scopes that begin and end in any order

A scope ends where its guard is dropped, which need not be where it began: a guard may be
kept under a name, be replaced, or be dropped on another thread, whose slot it then
empties.  A `ScopeScript` tells what to do with the slot of a thread and with the guards,
which all threads share; running it reports the slot after every step.
-/
import ManagedLdap.OrderedMap
import ManagedLdap.SocketScope

namespace ManagedLdap

set_option autoImplicit false

/-- How the inner steps of a scope end. -/
inductive ScopeEnding where
  | returned
  | failed
  | panicked
  deriving DecidableEq, Repr

/-- A sequence of steps about the slot of a thread. -/
inductive ScopeScript where
  | done
  | install (factory : SocketFactory) (rest : ScopeScript)
  | clear (rest : ScopeScript)
  /-- Begin a scope and keep its guard; a guard kept there is dropped. -/
  | enter (factory : Option SocketFactory) (guard : String) (rest : ScopeScript)
  /-- Drop a guard, if there is one. -/
  | release (guard : String) (rest : ScopeScript)
  /-- Steps inside a scope of their own, which ends however they end. -/
  | scope (factory : Option SocketFactory) (body : ScopeScript) (ending : ScopeEnding)
      (rest : ScopeScript)
  /-- Steps on a thread of their own, whose slot is empty at first. -/
  | thread (body rest : ScopeScript)
  deriving Inhabited

/-- The report of a step, and the slot after it. -/
inductive ScopeReport where
  | step (slot : Slot)
  | scope (ending : ScopeEnding) (inner : List ScopeReport) (slot : Slot)
  | thread (inner : List ScopeReport) (slot : Slot)

/-- The guards that are kept, and the slot of the running thread. -/
structure ScopeState where
  guards : OrderedMap Guard := OrderedMap.empty
  slot : Slot := none

namespace ScopeState

/-- Drop a guard on the running thread. -/
def release (s : ScopeState) (guard : Option Guard) : ScopeState :=
  match guard with
  | some g => { s with slot := SocketScope.release g s.slot }
  | none => s

/-- Begin a scope and keep its guard; the guard kept there is dropped after that. -/
def enter (s : ScopeState) (factory : Option SocketFactory) (name : String) : ScopeState :=
  let (guard, slot) := SocketScope.enter factory s.slot
  { guards := s.guards.insert name guard, slot := slot : ScopeState }.release (s.guards.get? name)

/-- Drop the guard of a name. -/
def drop (s : ScopeState) (name : String) : ScopeState :=
  { s with guards := s.guards.erase name }.release (s.guards.get? name)

/-- Drop all guards. -/
def dropAll (s : ScopeState) : ScopeState :=
  s.guards.entries.foldl (fun s e => s.release (some e.2)) { s with guards := OrderedMap.empty }

end ScopeState

namespace ScopeScript

/-- Carry out a sequence of steps. -/
def run : ScopeScript → ScopeState → List ScopeReport × ScopeState
  | .done, s => ([], s)
  | .install factory rest, s =>
      let s := { s with slot := SocketScope.install factory s.slot }
      let (reports, after) := rest.run s
      (.step s.slot :: reports, after)
  | .clear rest, s =>
      let s := { s with slot := SocketScope.clear s.slot }
      let (reports, after) := rest.run s
      (.step s.slot :: reports, after)
  | .enter factory guard rest, s =>
      let s := s.enter factory guard
      let (reports, after) := rest.run s
      (.step s.slot :: reports, after)
  | .release guard rest, s =>
      let s := s.drop guard
      let (reports, after) := rest.run s
      (.step s.slot :: reports, after)
  | .scope factory body ending rest, s =>
      let (guard, slot) := SocketScope.enter factory s.slot
      let (inner, s) := body.run { s with slot := slot }
      let s := s.release (some guard)
      let (reports, after) := rest.run s
      (.scope ending inner s.slot :: reports, after)
  | .thread body rest, s =>
      let (inner, t) := body.run { s with slot := none }
      let s := { t with slot := s.slot }
      let (reports, after) := rest.run s
      (.thread inner s.slot :: reports, after)

/-- Carry out a sequence of steps from nothing, and drop the guards that are left: the
reports, and the slot at the end. -/
def runAll (script : ScopeScript) : List ScopeReport × Slot :=
  let (reports, s) := script.run {}
  (reports, s.dropAll.slot)

end ScopeScript

end ManagedLdap
