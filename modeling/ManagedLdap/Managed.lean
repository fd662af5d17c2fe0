/-
# ManagedLdap.Managed -- the facade of a pooled context

A pool hands out contexts behind a facade.  The facade forwards every question and every
operation unchanged, with three exceptions: closing it gives the context behind it to a
close handler instead of closing it; what may open a connection runs with the facade's
socket factory in scope; and the LDAP capability is refused by name when the context
behind it lacks it.  A facade that was closed answers nothing any more, and one that is
dropped while open closes itself.

`Context ℓ η` is a plain context of type `ℓ` inside any number of facades, whose close
handlers are of type `η`, so everything here holds for every backend and all handlers.
-/
import ManagedLdap.Cursor

namespace ManagedLdap

set_option autoImplicit false

/-- What a backend provides: plain contexts of type `ℓ` and search cursors of type `γ`. -/
class Backend (ℓ : Type) (γ : outParam Type) where
  /-- Whether a context has the LDAP capability. -/
  offersLdap : ℓ → Bool
  ask : ℓ → Query → Except Failure Answer
  perform : {κ : Type} → Op → Act κ ℓ (Reply ℓ γ)
  close : {κ : Type} → Act κ ℓ Unit
  /-- What is left behind by a context that nobody holds any more. -/
  discard : {κ : Type} → ℓ → World κ → World κ
  shown : ℓ → Shown

/-- What becomes of the context behind a facade when the facade is closed. -/
inductive CloseHandler where
  /-- It goes back into the pool. -/
  | intoPool
  /-- It is refused, and dropped. -/
  | refusing (failure : Failure)
  /-- It is closed. -/
  | closing
  deriving DecidableEq

/-- A context: a plain one, or a facade before or after it was closed. -/
inductive Context (ℓ : Type) (η : Type := CloseHandler) where
  | plain (c : ℓ)
  | managed (inner : Context ℓ η) (handler : Option η) (factory : Option SocketFactory)
  | closed (factory : Option SocketFactory)

/-- What the close handlers of a type do with the context they are given for good.
`closeInner` closes that context. -/
class Handling (ℓ η : Type) where
  handle : η → (inner : Context ℓ η) →
    (closeInner : World (Context ℓ η) → Except Failure Unit × Context ℓ η × World (Context ℓ η)) →
    World (Context ℓ η) → Except Failure Unit × World (Context ℓ η)

namespace Context

variable {ℓ γ η : Type}

/-! ## Views -/

/-- Whether a context is a facade. -/
def isManaged : Context ℓ η → Bool
  | .plain _ => false
  | _ => true

/-- Whether a facade was closed. -/
def isClosed : Context ℓ η → Bool
  | .closed _ => true
  | _ => false

/-- Whether closing hands the context over instead of closing it. -/
def hasCloseHandler : Context ℓ η → Bool
  | .managed _ handler _ => handler.isSome
  | _ => false

/-- The socket factory of a facade. -/
def factory? : Context ℓ η → Option SocketFactory
  | .plain _ => none
  | .managed _ _ factory => factory
  | .closed factory => factory

/-- A facade around a context that was derived from another one: closing it closes the
context. -/
def derived (inner : Context ℓ η) (factory : Option SocketFactory) : Context ℓ η :=
  .managed inner none factory

/-- A facade around a context from a pool. -/
def pooled (inner : Context ℓ η) (handler : η) (factory : Option SocketFactory) :
    Context ℓ η :=
  .managed inner (some handler) factory

variable [Backend ℓ γ]

/-- Whether a context has the LDAP capability.  A facade always has it, and refuses what
the context behind it cannot do. -/
def offersLdap : Context ℓ η → Bool
  | .plain c => Backend.offersLdap c
  | _ => true

/-- What a context shows.  Identifiers of facades are random and not shown. -/
def shown : Context ℓ η → Shown
  | .plain c => Backend.shown c
  | .managed inner handler factory =>
      .record "ManagedContext"
        [("id", .wrapped "ContextId" (.word "ID")), ("pooled", .bool handler.isSome),
          ("socket_factory", .option SocketFactory.shown factory),
          ("inner", .wrapped "Some" inner.shown)] false
  | .closed factory =>
      .record "ManagedContext"
        [("id", .wrapped "ContextId" (.word "ID")), ("pooled", .bool false),
          ("socket_factory", .option SocketFactory.shown factory), ("inner", .word "None")] false

/-! ## Questions and operations -/

/-- The refusal of an LDAP question or operation, by its name, when the context behind a
facade lacks the capability. -/
def refusal? (inner : Context ℓ η) (ldapName : Option String) : Option DirError :=
  match ldapName with
  | some name => if inner.offersLdap then none else some (.unsupported name)
  | none => none

/-- Answer a question. -/
def ask : Context ℓ η → Query → Except Failure Answer
  | .plain c, q => Backend.ask c q
  | .closed _, _ => .error (.error .closed)
  | .managed inner _ _, q =>
      match refusal? inner q.ldapName? with
      | some e => .error (.error e)
      | none => ask inner q

theorem ask_refused {inner : Context ℓ η} {q : Query} {e : DirError}
    (refused : refusal? inner q.ldapName? = some e) (handler : Option η)
    (factory : Option SocketFactory) : (managed inner handler factory).ask q = .error (.error e) := by
  simp only [ask, refused]

theorem ask_forwarded {inner : Context ℓ η} {q : Query}
    (accepted : refusal? inner q.ldapName? = none) (handler : Option η)
    (factory : Option SocketFactory) : (managed inner handler factory).ask q = inner.ask q := by
  simp only [ask, accepted]

/-- What a facade makes of a reply: search cursors get its socket factory, and a further
instance its own facade. -/
def facadeReply (factory : Option SocketFactory) :
    Op → Reply (Context ℓ η) (Cursor γ) → Reply (Context ℓ η) (Cursor γ)
  | .newInstance _, .context c => .context (derived c factory)
  | _, .entries cursor => .entries (.under factory cursor)
  | _, reply => reply

/-- Carry out an operation. -/
def perform : Context ℓ η → Op → World (Context ℓ η) →
    Except Failure (Reply (Context ℓ η) (Cursor γ)) × Context ℓ η × World (Context ℓ η)
  | .plain c, op, w =>
      match Backend.perform op c w with
      | (r, c, w) => (r.map (Reply.map .plain .bare), .plain c, w)
  | .closed factory, _, w => (.error (.error .closed), .closed factory, w)
  | .managed inner handler factory, op, w =>
      match refusal? inner op.ldapName? with
      | some e => (.error (.error e), .managed inner handler factory, w)
      | none =>
          let scope := if op.opensConnection then factory else none
          match w.inScope scope fun w => match perform inner op w with
            | (r, inner, w) => ((r, inner), w) with
          | ((r, inner), w) => (r.map (facadeReply factory op), .managed inner handler factory, w)

theorem perform_plain (c : ℓ) (op : Op) (w : World (Context ℓ η)) :
    (plain c).perform op w =
      let x := Backend.perform op c w
      (x.1.map (Reply.map plain Cursor.bare), plain x.2.1, x.2.2) := rfl

theorem perform_refused {inner : Context ℓ η} {op : Op} {e : DirError}
    (refused : refusal? inner op.ldapName? = some e) (handler : Option η)
    (factory : Option SocketFactory) (w : World (Context ℓ η)) :
    perform (.managed inner handler factory) op w =
      (.error (.error e), .managed inner handler factory, w) := by
  simp only [perform, refused]

/-- What an open facade makes of an operation it does not refuse. -/
theorem perform_forwarded {inner : Context ℓ η} {op : Op}
    (accepted : refusal? inner op.ldapName? = none) (handler : Option η)
    (factory : Option SocketFactory) (w : World (Context ℓ η)) :
    perform (.managed inner handler factory) op w =
      let scope := if op.opensConnection then factory else none
      let x := perform inner op { w with slot := scope.or w.slot }
      (x.1.map (facadeReply factory op), .managed x.2.1 handler factory,
        { x.2.2 with slot := if scope.isSome then none else x.2.2.slot }) := by
  simp only [perform, accepted, World.inScope_eq]

/-! ## Closing and dropping -/

/-- What is left to do for a context after it was closed: a plain one is given up. -/
def discardClosed : Context ℓ η → World (Context ℓ η) → World (Context ℓ η)
  | .plain c, w => Backend.discard c w
  | _, w => w

/-- Drop a context whose closing is `closeIt`.  A facade that is still open is closed, and
an error of that is only reported. -/
def dropBy
    (closeIt : World (Context ℓ η) → Except Failure Unit × Context ℓ η × World (Context ℓ η)) :
    Context ℓ η → World (Context ℓ η) → Except Failure Unit × World (Context ℓ η)
  | .plain c, w => (.ok (), Backend.discard c w)
  | .closed _, w => (.ok (), w)
  | .managed .., w =>
      match closeIt w with
      | (.ok _, _, w) => (.ok (), w)
      | (.error (.error e), _, w) => (.ok (), w.warn (.closingDropped e))
      | (.error .panic, _, w) => (.error .panic, w)

/-- The name of a context, if it tells one.  Asking may panic. -/
def nameOf (c : Context ℓ η) : Except Failure (Option String) :=
  match c.ask .nameInNamespace with
  | .ok (.text name) => .ok (some name)
  | .error .panic => .error .panic
  | _ => .ok none

/-- Record that a context is handed over, under its name. -/
def recordHandedBack (inner : Context ℓ η) (w : World (Context ℓ η)) :
    Except Failure Unit × World (Context ℓ η) :=
  match inner.nameOf with
  | .ok name => (.ok (), w.record (.handedBack name))
  | .error f => (.error f, w)

end Context

/-- What the handlers of this library do: a context that goes into the pool or is refused is
first recorded under its name. -/
instance {ℓ γ : Type} [Backend ℓ γ] : Handling ℓ CloseHandler where
  handle
    | .intoPool, inner, closeInner, w =>
        match inner.recordHandedBack w with
        | (.ok _, w) => (.ok (), { w with pool := w.pool ++ [inner] })
        | (.error f, w) =>
            match inner.dropBy closeInner w with
            | (_, w) => (.error f, w)
    | .refusing failure, inner, closeInner, w =>
        match inner.recordHandedBack w with
        | (recorded, w) =>
            match inner.dropBy closeInner w with
            | (.error f, w) => (.error f, w)
            | (.ok _, w) =>
                match recorded with
                | .error f => (.error f, w)
                | .ok _ => (.error failure, w)
    | .closing, _, closeInner, w =>
        match closeInner w with
        | (r, inner, w) => (r, inner.discardClosed w)

namespace Context

variable {ℓ γ η : Type}

section Closing

variable [Backend ℓ γ] [Handling ℓ η]

/-- Close a context.  A facade gives up the context behind it and its handler before
anything else happens, so it is closed whatever comes of it. -/
def close : Context ℓ η → World (Context ℓ η) →
    Except Failure Unit × Context ℓ η × World (Context ℓ η)
  | .plain c, w => Act.wrapped .plain c Backend.close w
  | .closed factory, w => (.ok (), .closed factory, w)
  | .managed inner (some handler) factory, w =>
      match Handling.handle handler inner (fun w => close inner w) w with
      | (r, w) => (r, .closed factory, w)
  | .managed inner none factory, w =>
      match close inner w with
      | (r, inner, w) => (r, .closed factory, discardClosed inner w)

/-- A facade that was closed is closed, whatever came of it. -/
theorem close_managed (inner : Context ℓ η) (handler : Option η)
    (factory : Option SocketFactory) (w : World (Context ℓ η)) :
    ((managed inner handler factory).close w).2.1 = .closed factory := by
  cases handler <;> rfl

/-- Drop a context. -/
def drop (c : Context ℓ η) (w : World (Context ℓ η)) :
    Except Failure Unit × World (Context ℓ η) :=
  dropBy (fun w => close c w) c w

/-- Drop contexts in order.  A panic ends the dropping. -/
def dropAll : List (Context ℓ η) → World (Context ℓ η) →
    Except Failure Unit × World (Context ℓ η)
  | [], w => (.ok (), w)
  | c :: rest, w =>
      match c.drop w with
      | (.ok _, w) => dropAll rest w
      | (.error f, w) => (.error f, w)

end Closing

/-! ## Opening further contexts -/

/-- Run something that opens a context for this one: a closed facade refuses, an open one
lends its socket factory. -/
def openFor {σ α : Type} (c : Context ℓ η) (x : Act (Context ℓ η) σ α) : Act (Context ℓ η) σ α :=
  match c with
  | .closed _ => Act.fail .closed
  | c => Act.under c.factory? x

/-- Open the context a referral points at, behind a facade with the same socket factory
and no handler. -/
def follow {σ : Type} (c : Context ℓ η) (connect : Act (Context ℓ η) σ (Context ℓ η)) :
    Act (Context ℓ η) σ (Context ℓ η) := do
  let referred ← c.openFor connect
  return derived referred c.factory?

theorem follow_eq {σ : Type} (c : Context ℓ η)
    (connect : Act (Context ℓ η) σ (Context ℓ η)) (s : σ) (w : World (Context ℓ η)) :
    c.follow connect s w =
      let y := c.openFor connect s w
      (y.1.map fun referred => derived referred c.factory?, y.2.1, y.2.2) := by
  simp only [follow, Act.bind_apply]
  rcases c.openFor connect s w with ⟨_ | _, _, _⟩ <;> rfl

end Context

end ManagedLdap
