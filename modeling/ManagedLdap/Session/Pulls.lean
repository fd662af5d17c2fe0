/-
# ManagedLdap.Session.Pulls -- pulling from one cursor, step by step

A sequence of calls of one cursor, each of which is reported with what it recorded and
the socket factory in effect after it.  Besides its own calls a cursor can be iterated:
that is the next element, or the end of the iteration.
-/
import ManagedLdap.Script.Cursor

namespace ManagedLdap

set_option autoImplicit false

/-- A call of a cursor in a sequence of calls. -/
inductive Pull where
  | hasMore
  | next
  | close
  /-- The next element of the iteration. -/
  | iterate
  /-- All elements of the iteration, up to its end or the first failure. -/
  | collect
  /-- A look at the cursor that leaves it as it is. -/
  | look
  deriving DecidableEq, Repr

/-- What a call of a cursor tells. -/
inductive PullOutcome (α : Type) where
  | more (answer : Bool)
  | next (item : Option α)
  | closed
  | iterated (item : Option α)
  | collected (items : List α)
  /-- The elements of a cursor that holds them. -/
  | held (items : List α)
  /-- What a cursor under a socket factory shows. -/
  | shown (text : String)
  | failed (failure : Failure)

/-- The report of a call. -/
structure PullReport (α : Type) where
  outcome : PullOutcome α
  events : List Event
  slot : Slot

namespace Pull

variable {κ γ α : Type} [Source γ α]

/-- Carry out a call.  `held` tells the elements of a bare cursor. -/
def outcome (held : γ → List α) : Pull → Act κ (Cursor γ) (PullOutcome α)
  | .hasMore => .more <$> Cursor.hasMore
  | .next => .next <$> Cursor.next
  | .close => do
      Cursor.close
      return .closed
  | .iterate => .iterated <$> Cursor.next
  | .collect => do
      let (items, failure) ← Cursor.collect
      match failure with
      | some failure => Act.failWith failure
      | none => return .collected items
  | .look => do
      let c ← Act.self
      match c.shown? with
      | some view => return .shown view.render
      | none => return .held (held c.core)

/-- Carry out a call and report it. -/
def report (held : γ → List α) (pull : Pull) : Act κ (Cursor γ) (PullReport α) := do
  let before ← Act.world
  let outcome ← Act.outcome (pull.outcome held)
  let after ← Act.world
  return {
    outcome := match outcome with
      | .ok outcome => outcome
      | .error failure => .failed failure
    events := after.events.drop before.events.length
    slot := after.slot }

/-- Carry out a sequence of calls. -/
def reportAll (held : γ → List α) : List Pull → Act κ (Cursor γ) (List (PullReport α))
  | [] => return []
  | pull :: rest => do
      let report ← pull.report held
      let reports ← reportAll held rest
      return report :: reports

/-- The reports of a sequence of calls, with that socket factory in effect at first. -/
def run (held : γ → List α) (pulls : List Pull) (outer : Slot) (cursor : Cursor γ) :
    List (PullReport α) :=
  match reportAll held pulls cursor ({ slot := outer, network := .isolated } : World Empty) with
  | (.ok reports, _, _) => reports
  | (.error _, _, _) => []

end Pull

end ManagedLdap
