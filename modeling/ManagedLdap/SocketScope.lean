/-
# ManagedLdap.SocketScope -- the socket factory in effect

Code that opens a connection takes its socket factory from a slot of the thread it runs
on, because the calls in between have no place for one.  A call that brings a factory
installs it with `enter` and gives it up through the guard it got; a call without one
leaves the slot as it found it.  Giving up empties the slot, whatever was installed
before: the slot does not remember.
-/
import ManagedLdap.SocketFactory

namespace ManagedLdap

set_option autoImplicit false

/-- The slot of a thread. -/
abbrev Slot := Option SocketFactory

/-- What has to be done when a scope ends. -/
structure Guard where
  /-- Whether the scope installed a factory. -/
  installed : Bool
  deriving DecidableEq, Repr

namespace SocketScope

/-- Put a factory into the slot. -/
def install (factory : SocketFactory) (_ : Slot) : Slot := some factory

/-- Empty the slot. -/
def clear (_ : Slot) : Slot := none

/-- Begin a scope. -/
def enter (factory : Option SocketFactory) (slot : Slot) : Guard × Slot :=
  match factory with
  | some f => (⟨true⟩, install f slot)
  | none => (⟨false⟩, slot)

/-- End a scope. -/
def release (guard : Guard) (slot : Slot) : Slot :=
  if guard.installed then clear slot else slot

@[simp] theorem enter_none (slot : Slot) : enter none slot = (⟨false⟩, slot) := rfl

@[simp] theorem enter_some (f : SocketFactory) (slot : Slot) :
    enter (some f) slot = (⟨true⟩, some f) := rfl

@[simp] theorem release_installed (slot : Slot) : release ⟨true⟩ slot = none := rfl

@[simp] theorem release_idle (slot : Slot) : release ⟨false⟩ slot = slot := rfl

end SocketScope

end ManagedLdap
