/-
# ManagedLdap.World -- what calls have in common, and how they fail

Everything a call can see or leave behind apart from its own object is one record, the
`World`: the slot of the running thread, the recorded events and warnings, the pool of
contexts that were handed back, and the network.  `Act κ σ α` is a call on an object of
type `σ`: it returns a value or fails, and either way says what became of the object and
the world.  A failure is an error for the caller or a panic, which no caller answers but
every scope still ends on (`Act.under`).
-/
import ManagedLdap.Ldap.Network
import ManagedLdap.Operation
import ManagedLdap.SocketScope

namespace ManagedLdap

set_option autoImplicit false

/-! ## Records -/

/-- A call of a cursor. -/
inductive CursorCall where
  | hasMore
  | next
  | close
  deriving DecidableEq, Repr

/-- Something worth recording. -/
inductive Happening where
  /-- An operation reached a scripted context. -/
  | called (context : String) (op : Op)
  /-- A scripted context was closed. -/
  | closed (context : String)
  /-- A call reached a scripted cursor. -/
  | pulled (call : CursorCall)
  /-- A close handler was given a context of that name. -/
  | handedBack (name : Option String)
  /-- A socket factory configured a connection. -/
  | configured (label : String)
  /-- A scripted referral was asked for its context. -/
  | referralConnect (url : String)
  /-- A scripted factory was asked for an initial context. -/
  | initialContext
  deriving DecidableEq

/-- Something that happened, and the socket factory in effect then. -/
structure Event where
  what : Happening
  slot : Slot
  deriving DecidableEq

/-- A message for whoever operates the program. -/
inductive Warning where
  | insecureTls
  /-- The transport of a connection failed. -/
  | driverFailed (error : ClientError)
  /-- Of a facade, whose identifier is random and not shown. -/
  | closingDropped (error : DirError)
  | referralConnection (server : String) (error : DirError)
  | unbindFailed (url : String) (error : ClientError)
  | abandonFailed (base : String) (error : ClientError)
  deriving DecidableEq

namespace Warning

/-- The wording of a warning. -/
def message : Warning → String
  | .insecureTls =>
      "SECURITY WARNING: TLS certificate verification is DISABLED for LDAP connections. " ++
        "This should ONLY be used for local development."
  | .driverFailed _ => "LDAP connection driver error"
  | .closingDropped _ => "Error closing dropped managed context"
  | .referralConnection .. => "Referral connection failed"
  | .unbindFailed .. => "LDAP unbind failed"
  | .abandonFailed .. => "Failed to abandon LDAP search"

/-- What a warning says beside its wording, by name. -/
def fields : Warning → List (String × String)
  | .insecureTls => []
  | .driverFailed e => [("error", e.text)]
  | .closingDropped e => [("context_id", "ID"), ("error", e.message)]
  | .referralConnection server e => [("server", server), ("error", e.message)]
  | .unbindFailed url e => [("url", url), ("error", e.text)]
  | .abandonFailed base e => [("base", base), ("error", e.text)]

/-- The wording of the error a warning is about. -/
def error? (w : Warning) : Option String := w.fields.lookup "error"

/-- What is said of a connection that ends with this reply. -/
def ofEnd (reply : ServerReply) : List Warning :=
  (reply.fault.map fun text => .driverFailed (.io text)).toList

end Warning

/-- How a call fails. -/
inductive Failure where
  | error (e : DirError)
  | panic
  deriving DecidableEq

/-- What calls see and leave behind.  `κ` is the type of the contexts in the pool. -/
structure World (κ : Type) where
  slot : Slot := none
  events : List Event := []
  warnings : List Warning := []
  pool : List κ := []
  network : Network

namespace World

variable {κ : Type}

/-- Record what happened, with the socket factory in effect. -/
def record (w : World κ) (what : Happening) : World κ :=
  { w with events := w.events ++ [⟨what, w.slot⟩] }

def warn (w : World κ) (warning : Warning) : World κ :=
  { w with warnings := w.warnings ++ [warning] }

/-- Send a request over a connection that takes it, and take the reply to it.  `closes` says
whether the connection closes with that. -/
def exchange (w : World κ) (link : LinkId) (request : SentRequest)
    (closes : ServerReply → Bool) : World κ :=
  let reply := w.network.nextReply link
  { w with
    warnings := w.warnings ++ if closes reply then Warning.ofEnd reply else []
    network := (w.network.send link request).takeReply link (closes reply) }

@[simp] theorem exchange_network (w : World κ) (link : LinkId) (request : SentRequest)
    (closes : ServerReply → Bool) :
    (w.exchange link request closes).network =
      (w.network.send link request).takeReply link (closes (w.network.nextReply link)) := rfl

/-- Run something with a socket factory in scope.  Whatever it returns, the scope ends. -/
def inScope {ρ : Type} (factory : Option SocketFactory) (run : World κ → ρ × World κ)
    (w : World κ) : ρ × World κ :=
  let (guard, slot) := SocketScope.enter factory w.slot
  match run { w with slot := slot } with
  | (r, w) => (r, { w with slot := SocketScope.release guard w.slot })

/-- Without a factory a scope is no scope. -/
@[simp] theorem inScope_none {ρ : Type} (run : World κ → ρ × World κ) (w : World κ) :
    w.inScope none run = run w := by
  simp only [inScope, SocketScope.enter_none, SocketScope.release_idle]

/-- What runs in a scope sees its factory, if it has one, and the slot is empty then. -/
theorem inScope_eq {ρ : Type} (factory : Option SocketFactory) (run : World κ → ρ × World κ)
    (w : World κ) :
    w.inScope factory run =
      let x := run { w with slot := factory.or w.slot }
      (x.1, { x.2 with slot := if factory.isSome then none else x.2.slot }) := by
  cases factory <;> rfl

end World

/-! ## Calls -/

/-- A call on an object of type `σ`. -/
def Act (κ σ α : Type) : Type := σ → World κ → Except Failure α × σ × World κ

namespace Act

variable {κ σ τ α β : Type}

/-- Return a value and touch nothing. -/
def ret (a : α) : Act κ σ α := fun s w => (.ok a, s, w)

/-- Go on with the value of a call, unless it fails. -/
def andThen (x : Act κ σ α) (f : α → Act κ σ β) : Act κ σ β := fun s w =>
  match x s w with
  | (.ok a, s, w) => f a s w
  | (.error e, s, w) => (.error e, s, w)

instance : Monad (Act κ σ) where
  pure := ret
  bind := andThen

theorem id_map_ret (x : Act κ σ α) : andThen x (fun a => ret (id a)) = x := by
  funext s w
  unfold andThen ret
  rcases x s w with ⟨_ | _, _, _⟩ <;> rfl

theorem andThen_assoc {γ : Type} (x : Act κ σ α) (f : α → Act κ σ β) (g : β → Act κ σ γ) :
    andThen (andThen x f) g = andThen x fun a => andThen (f a) g := by
  funext s w
  unfold andThen
  rcases x s w with ⟨_ | _, _, _⟩ <;> rfl

instance : LawfulMonad (Act κ σ) :=
  LawfulMonad.mk' _ id_map_ret (fun _ _ => rfl) andThen_assoc

/-- Fail. -/
def failWith (f : Failure) : Act κ σ α := fun s w => (.error f, s, w)

/-- Fail with an error. -/
def fail (e : DirError) : Act κ σ α := failWith (.error e)

/-- The value of an outcome that is already known. -/
def ofExcept : Except Failure α → Act κ σ α
  | .ok a => ret a
  | .error f => failWith f

/-- The object. -/
def self : Act κ σ σ := fun s w => (.ok s, s, w)

/-- Change the object. -/
def update (f : σ → σ) : Act κ σ Unit := fun s w => (.ok (), f s, w)

/-- The world. -/
def world : Act κ σ (World κ) := fun s w => (.ok w, s, w)

/-- Change the world. -/
def updateWorld (f : World κ → World κ) : Act κ σ Unit := fun s w => (.ok (), s, f w)

/-- Record what happens. -/
def record (what : Happening) : Act κ σ Unit := updateWorld fun w => w.record what

/-- Leave a message. -/
def warn (warning : Warning) : Act κ σ Unit := updateWorld fun w => w.warn warning

/-- The network. -/
def network : Act κ σ Network := fun s w => (.ok w.network, s, w)

/-- Change the network. -/
def updateNetwork (f : Network → Network) : Act κ σ Unit :=
  updateWorld fun w => { w with network := f w.network }

/-- A call on another object: its outcome, whatever it is, and what became of that object. -/
def on (t : τ) (x : Act κ τ α) : Act κ σ (Except Failure α × τ) := fun s w =>
  match x t w with
  | (r, t, w) => (.ok (r, t), s, w)

/-- A call on a part of the object. -/
def within (get : σ → τ) (set : τ → σ → σ) (x : Act κ τ α) : Act κ σ α := fun s w =>
  match x (get s) w with
  | (r, t, w) => (r, set t s, w)

/-- A call on another representation of the object. -/
def wrapped (wrap : τ → σ) (t : τ) (x : Act κ τ α) (w : World κ) :
    Except Failure α × σ × World κ :=
  match x t w with
  | (r, t, w) => (r, wrap t, w)

/-- The outcome of a call, which does not fail then. -/
def outcome (x : Act κ σ α) : Act κ σ (Except Failure α) := fun s w =>
  match x s w with
  | (r, s, w) => (.ok r, s, w)

/-- A call with a socket factory in scope.  However the call ends, the scope ends. -/
def under (factory : Option SocketFactory) (x : Act κ σ α) : Act κ σ α := fun s w =>
  match w.inScope factory fun w => match x s w with
    | (r, s, w) => ((r, s), w) with
  | ((r, s), w) => (r, s, w)

/-! ## Equations of calls -/

@[simp] theorem pure_apply (a : α) (s : σ) (w : World κ) :
    (pure a : Act κ σ α) s w = (.ok a, s, w) := rfl

theorem bind_apply (x : Act κ σ α) (f : α → Act κ σ β) (s : σ) (w : World κ) :
    (x >>= f) s w =
      match x s w with
      | (.ok a, s, w) => f a s w
      | (.error e, s, w) => (.error e, s, w) := rfl

@[simp] theorem map_apply (f : α → β) (x : Act κ σ α) (s : σ) (w : World κ) :
    (f <$> x) s w = ((x s w).1.map f, (x s w).2) := by
  change andThen x (fun a => ret (f a)) s w = _
  unfold andThen ret
  rcases x s w with ⟨_ | _, _, _⟩ <;> rfl

@[simp] theorem fail_apply (e : DirError) (s : σ) (w : World κ) :
    (fail e : Act κ σ α) s w = (.error (.error e), s, w) := rfl

@[simp] theorem failWith_apply (f : Failure) (s : σ) (w : World κ) :
    (failWith f : Act κ σ α) s w = (.error f, s, w) := rfl

@[simp] theorem self_apply (s : σ) (w : World κ) : (self : Act κ σ σ) s w = (.ok s, s, w) := rfl

@[simp] theorem world_apply (s : σ) (w : World κ) :
    (world : Act κ σ (World κ)) s w = (.ok w, s, w) := rfl

@[simp] theorem network_apply (s : σ) (w : World κ) :
    (network : Act κ σ Network) s w = (.ok w.network, s, w) := rfl

@[simp] theorem update_apply (f : σ → σ) (s : σ) (w : World κ) :
    (update f : Act κ σ Unit) s w = (.ok (), f s, w) := rfl

@[simp] theorem updateWorld_apply (f : World κ → World κ) (s : σ) (w : World κ) :
    (updateWorld f : Act κ σ Unit) s w = (.ok (), s, f w) := rfl

@[simp] theorem updateNetwork_apply (f : Network → Network) (s : σ) (w : World κ) :
    (updateNetwork f : Act κ σ Unit) s w = (.ok (), s, { w with network := f w.network }) := rfl

@[simp] theorem record_apply (what : Happening) (s : σ) (w : World κ) :
    (record what : Act κ σ Unit) s w = (.ok (), s, w.record what) := rfl

@[simp] theorem warn_apply (warning : Warning) (s : σ) (w : World κ) :
    (warn warning : Act κ σ Unit) s w = (.ok (), s, w.warn warning) := rfl

/-- A call without a factory is that call. -/
@[simp] theorem under_none (x : Act κ σ α) : under none x = x := by
  funext s w
  simp only [under, World.inScope_none]

/-- A call in a scope sees its factory, if it has one, and leaves the slot empty then. -/
theorem under_eq (factory : Option SocketFactory) (x : Act κ σ α) (s : σ) (w : World κ) :
    under factory x s w =
      let y := x s { w with slot := factory.or w.slot }
      (y.1, y.2.1, { y.2.2 with slot := if factory.isSome then none else y.2.2.slot }) := by
  simp only [under, World.inScope_eq]

end Act

end ManagedLdap
