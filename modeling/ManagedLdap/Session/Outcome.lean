/-
# ManagedLdap.Session.Outcome -- what a session reports

Every step reports its outcome, what it recorded and warned of, and the socket factory in
effect after it.  The report of a session also tells what dropping the leftovers did, and
what was sent over each connection.
-/
import ManagedLdap.Session.Action

namespace ManagedLdap.Session

set_option autoImplicit false

/-- An element of a cursor. -/
inductive Item where
  | entry (result : SearchResult)
  | child (pair : NameClassPair)

/-- The outcome of a step. -/
inductive Outcome where
  | done
  /-- A value was refused before anything was done. -/
  | refused
  /-- Nothing is kept under a name that was used. -/
  | missing (name : String)
  /-- The context lacks the LDAP capability. -/
  | noLdap
  | failed (failure : Failure)
  /-- A context is kept now; its name, if it tells one. -/
  | context (name : Option String)
  /-- A context is kept now that surfaces referrals in this mode. -/
  | connected (name : Option String) (mode : ReferralMode)
  | factory (url : String) (socketFactory : Option String)
  | names (names : List (Option String))
  | text (s : String)
  | flag (b : Bool)
  | referral (urls : List String) (text : String)
  | facade (hasCloseHandler isClosed : Bool) (socketFactory : Option String)
  | capability (offersLdap : Bool)
  | answer (answer : Answer)
  | attributes (attrs : Attributes)
  | definitions (texts : List String)
  | previous (value : Option String)
  | extended (response : ExtendedResponse)
  | item (item : Option Item)
  /-- The elements up to the end or the first failure. -/
  | items (items : List Item) (failure : Option Failure)

namespace Outcome

/-- The referral an outcome is about. -/
def referral? : Outcome → Option Referral
  | .failed (.error (.referral r)) => some r
  | .items _ (some (.error (.referral r))) => some r
  | _ => none

end Outcome

/-- What happened meanwhile. -/
structure Traces where
  events : List Event
  warnings : List Warning

namespace Traces

/-- What happened between two states of the world: neither list ever shrinks. -/
def between {κ : Type} (before after : World κ) : Traces :=
  { events := after.events.drop before.events.length
    warnings := after.warnings.drop before.warnings.length }

end Traces

/-- The report of a step, and what it left in the slot. -/
inductive Report where
  | step (outcome : Outcome) (traces : Traces) (slot : Slot)
  /-- The reports of the steps of a thread, each with its own traces. -/
  | thread (reports : List Report) (slot : Slot)

/-- The report of a session. -/
structure Transcript where
  reports : List Report
  /-- What dropping the leftovers did. -/
  ending : Traces
  links : List Link

end ManagedLdap.Session
