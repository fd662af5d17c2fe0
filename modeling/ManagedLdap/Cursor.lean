/-
# ManagedLdap.Cursor -- lazy sequences of results

A cursor is pulled from long after the call that made it, by whatever thread holds it,
and a pull may open a connection.  `Cursor γ` therefore wraps a bare cursor in any number
of socket factories: every pull runs with each of them in scope, the innermost one last,
and closing needs none of them.
-/
import ManagedLdap.World

namespace ManagedLdap

set_option autoImplicit false

/-- What the cursors of a type can do.  `α` is the type of the elements. -/
class Source (γ : Type) (α : outParam Type) where
  /-- Whether another element follows. -/
  hasMore : {κ : Type} → Act κ γ Bool
  /-- The next element; none at the end. -/
  next : {κ : Type} → Act κ γ (Option α)
  /-- Release the cursor before its end. -/
  close : {κ : Type} → Act κ γ Unit
  /-- What is left behind by a cursor that nobody holds any more. -/
  discard : {κ : Type} → γ → World κ → World κ
  /-- A bound on the number of pulls that return an element. -/
  remaining : {κ : Type} → γ → World κ → Nat

/-! ## Elements at hand -/

instance {α : Type} : Source (List α) α where
  hasMore := do
    let items ← Act.self
    return !items.isEmpty
  next := do
    let items ← Act.self
    Act.update (List.drop 1)
    return items.head?
  close := Act.update fun _ => []
  discard _ w := w
  remaining items _ := items.length

/-! ## Cursors under socket factories -/

/-- A bare cursor inside any number of socket factories. -/
inductive Cursor (γ : Type) where
  | bare (c : γ)
  | under (factory : Option SocketFactory) (inner : Cursor γ)

namespace Cursor

variable {κ γ α β : Type}

/-- A call of the bare cursor with every factory in scope. -/
def pull (x : Act κ γ β) : Cursor γ → World κ → Except Failure β × Cursor γ × World κ
  | .bare c, w => Act.wrapped .bare c x w
  | .under factory inner, w =>
      match w.inScope factory fun w => match pull x inner w with
        | (r, inner, w) => ((r, inner), w) with
      | ((r, inner), w) => (r, .under factory inner, w)

/-- A call of the bare cursor without any factory. -/
def reach (x : Act κ γ β) : Cursor γ → World κ → Except Failure β × Cursor γ × World κ
  | .bare c, w => Act.wrapped .bare c x w
  | .under factory inner, w =>
      match reach x inner w with
      | (r, inner, w) => (r, .under factory inner, w)

/-- The bare cursor. -/
def core : Cursor γ → γ
  | .bare c => c
  | .under _ inner => core inner

/-- What a cursor under a socket factory shows. -/
def shown? : Cursor γ → Option Shown
  | .bare _ => none
  | .under factory _ =>
      some (.record "ScopedCursor" [("socket_factory", .option SocketFactory.shown factory)] true)

variable [Source γ α]

def hasMore : Act κ (Cursor γ) Bool := pull Source.hasMore

def next : Act κ (Cursor γ) (Option α) := pull Source.next

def close : Act κ (Cursor γ) Unit := reach Source.close

def discard (c : Cursor γ) (w : World κ) : World κ := Source.discard c.core w

/-- Pull until the end or the first failure, at most `n` times: the elements, and the
failure if there was one. -/
def collectUpTo : Nat → Act κ (Cursor γ) (List α × Option Failure)
  | 0 => return ([], none)
  | n + 1 => do
      match ← Act.outcome next with
      | .ok (some a) =>
          let (items, failure) ← collectUpTo n
          return (a :: items, failure)
      | .ok none => return ([], none)
      | .error failure => return ([], some failure)

/-- Pull until the end or the first failure. -/
def collect : Act κ (Cursor γ) (List α × Option Failure) := fun c w =>
  collectUpTo (Source.remaining c.core w + 1) c w

end Cursor

end ManagedLdap
