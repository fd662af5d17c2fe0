/-
# ManagedLdap.Script.Cursor -- cursors whose answers are scripted

A scripted cursor records every call with the socket factory in effect, and answers from
a list: an element, or a failure that takes its place in the sequence once.
-/
import ManagedLdap.Cursor

namespace ManagedLdap

set_option autoImplicit false

/-- A cursor whose answers are scripted. -/
structure ScriptedCursor (α : Type) where
  items : List (Except Failure α)
  /-- How closing fails, if it does. -/
  closeFailure : Option Failure

namespace ScriptedCursor

variable {κ α : Type}

/-- Take the next answer away. -/
def advance : Act κ (ScriptedCursor α) Unit :=
  Act.update fun c => { c with items := c.items.drop 1 }

def hasMore : Act κ (ScriptedCursor α) Bool := do
  Act.record (.pulled .hasMore)
  let c ← Act.self
  match c.items with
  | .error failure :: _ =>
      advance
      Act.failWith failure
  | items => return !items.isEmpty

def next : Act κ (ScriptedCursor α) (Option α) := do
  Act.record (.pulled .next)
  let c ← Act.self
  match c.items with
  | [] => return none
  | item :: _ =>
      advance
      match item with
      | .ok a => return some a
      | .error failure => Act.failWith failure

def close : Act κ (ScriptedCursor α) Unit := do
  Act.record (.pulled .close)
  let c ← Act.self
  Act.update fun c => { c with items := [] }
  match c.closeFailure with
  | some failure => Act.failWith failure
  | none => return ()

instance : Source (ScriptedCursor α) α where
  hasMore := hasMore
  next := next
  close := close
  discard _ w := w
  remaining c _ := c.items.length

end ScriptedCursor

end ManagedLdap
