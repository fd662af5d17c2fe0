/-
# ManagedLdap.Proofs.Facade.Methods -- a facade, method by method

`Context.perform` and `Context.ask` treat all operations and all questions of a facade in one
line each: refuse by name what the context behind lacks, lend the socket factory to what opens a
connection, and wrap what is handed back.  What the line does for a given operation is left to
three tables, and an entry missing from one of them would be a method that does not do what its
facade promises.

So here the methods are written out, each in the few things that a facade can do (`delegate`,
`ldapDelegate`, a scope, a wrapping), and the line is each of them: `perform_eq_method`,
`ask_eq_method`.  The line wraps by what a reply is and a method by what was asked for.  These are
the same as long as a context answers an operation with the kind of reply that it has
(`AnswersInKind`), as the contexts of this library do.
-/
import ManagedLdap.Ldap.Backend
import ManagedLdap.Script.Context

namespace ManagedLdap

set_option autoImplicit false

/-! ## The kinds of replies -/

/-- Whether a reply is one that the operation has. -/
def Reply.suits {ℓ γ : Type} : Op → Reply ℓ γ → Bool
  | .lookup _, .context _ => true
  | .createSubcontext .., .context _ => true
  | .getSchema _, .context _ => true
  | .newInstance _, .context _ => true
  | .list _, .listing _ => true
  | .getAttributes .., .attributes _ => true
  | .getSchemaClassDefinition _, .definitions _ => true
  | .search .., .entries _ => true
  | .searchWithArgs .., .entries _ => true
  | .searchByAttributes .., .entries _ => true
  | .addToEnvironment .., .previous _ => true
  | .removeFromEnvironment _, .previous _ => true
  | .extendedOperation _, .extended _ => true
  | .bind .., .done => true
  | .rebind .., .done => true
  | .unbind _, .done => true
  | .rename .., .done => true
  | .modify .., .done => true
  | .destroySubcontext _, .done => true
  | .reconnect _, .done => true
  | .setRequestControls _, .done => true
  | _, _ => false

/-- Contexts whose operations answer with the kind of reply that they have. -/
def AnswersInKind (ℓ : Type) {γ : Type} [Backend ℓ γ] : Prop :=
  ∀ {κ : Type} (op : Op) (c : ℓ) (w : World κ) (r : Reply ℓ γ),
    (Backend.perform op c w).1 = .ok r → r.suits op

namespace Act

variable {κ σ α β : Type}

theorem map_ok {f : α → β} {x : Act κ σ α} {s : σ} {w : World κ} {b : β}
    (returned : ((f <$> x) s w).1 = .ok b) : ∃ a, b = f a := by
  rw [map_apply] at returned
  cases outcome : (x s w).1 with
  | error e => simp [outcome, Except.map] at returned
  | ok a => exact ⟨a, by simpa [outcome, Except.map] using returned.symm⟩

theorem then_ok {x : Act κ σ α} {b b' : β} {s : σ} {w : World κ}
    (returned : ((do let _ ← x; return b : Act κ σ β) s w).1 = .ok b') : b' = b := by
  have mapped : (do let _ ← x; return b : Act κ σ β) = (fun _ => b) <$> x :=
    bind_pure_comp (fun _ => b) x
  rw [mapped] at returned
  obtain ⟨-, same⟩ := map_ok returned
  exact same

end Act

/-- Contexts over a connection answer in kind. -/
theorem LdapDirContext.answersInKind : AnswersInKind LdapDirContext := by
  intro κ op c w r returned
  cases op with
  | lookup | list | getAttributes | createSubcontext | getSchema | getSchemaClassDefinition
  | search | searchWithArgs | searchByAttributes | addToEnvironment | removeFromEnvironment
  | extendedOperation | newInstance =>
      obtain ⟨_, rfl⟩ := Act.map_ok returned
      rfl
  | _ =>
      obtain rfl := Act.then_ok returned
      rfl

/-- Scripted contexts answer in kind. -/
theorem ScriptedContext.answersInKind : AnswersInKind ScriptedContext := by
  have carried : ∀ {κ : Type} (op : Op) (c : ScriptedContext) (w : World κ) r,
      (ScriptedContext.carryOut op c w).1 = .ok r → r = c.reply op := by
    intro κ op c w r
    simp only [carryOut, Act.bind_apply, Act.self_apply]
    cases isRecorded op <;> cases c.obey op.key <;>
      simp [Act.ofExcept, Act.ret, Act.bind_apply, Except.map, eq_comm]
  intro κ op c w r returned
  cases op with
  | searchWithArgs name expr args controls =>
      change ((perform (.searchWithArgs name expr args controls) c w).1 = _) at returned
      simp only [perform] at returned
      cases filled : Filter.substitute expr args with
      | ok filter =>
          simp only [filled] at returned
          rw [carried _ c w r returned]
          rfl
      | error fault => simp [filled] at returned
  | _ =>
      rw [carried _ c w r returned]
      rfl

/-! ## The methods -/

namespace Context

variable {ℓ γ η : Type}

/-- Do something to the context behind a facade.  A closed facade has none. -/
def delegate {α : Type} (x : Act (Context ℓ η) (Context ℓ η) α) :
    Act (Context ℓ η) (Context ℓ η) α
  | .managed inner handler factory, w =>
      Act.wrapped (fun inner => .managed inner handler factory) inner x w
  | c, w => Act.fail .closed c w

variable [Backend ℓ γ]

/-- Do something to the context behind a facade that takes the LDAP capability.  Without it
the operation is refused by its name. -/
def ldapDelegate {α : Type} (name : String) (x : Act (Context ℓ η) (Context ℓ η) α) :
    Act (Context ℓ η) (Context ℓ η) α :=
  delegate fun inner w =>
    if inner.offersLdap then x inner w else Act.fail (.unsupported name) inner w

/-- An operation as a call. -/
def forward (op : Op) : Act (Context ℓ η) (Context ℓ η) (Reply (Context ℓ η) (Cursor γ)) :=
  fun c w => c.perform op w

/-- The method of a facade for an operation, where the socket factory of the facade is that. -/
def method (factory : Option SocketFactory) (op : Op) :
    Act (Context ℓ η) (Context ℓ η) (Reply (Context ℓ η) (Cursor γ)) :=
  match op with
  | .search .. => Reply.map id (Cursor.under factory) <$> delegate (forward op)
  | .searchWithArgs .. => Reply.map id (Cursor.under factory) <$> delegate (forward op)
  | .searchByAttributes .. => Reply.map id (Cursor.under factory) <$> delegate (forward op)
  | .extendedOperation _ => ldapDelegate "extended_operation" (forward op)
  | .newInstance _ =>
      Reply.map (derived · factory) id <$> ldapDelegate "new_instance" (forward op)
  | .reconnect _ => ldapDelegate "reconnect" (Act.under factory (forward op))
  | .setRequestControls _ => ldapDelegate "set_request_controls" (forward op)
  | _ => delegate (forward op)

/-- The method of a facade for a question. -/
def askMethod (q : Query) (c : Context ℓ η) : Except Failure Answer :=
  match c with
  | .managed inner _ _ =>
      let ldap (name : String) : Except Failure Answer :=
        if inner.offersLdap then inner.ask q else .error (.error (.unsupported name))
      match q with
      | .connectControls => ldap "connect_controls"
      | .requestControls => ldap "request_controls"
      | .responseControls => ldap "response_controls"
      | _ => inner.ask q
  | _ => .error (.error .closed)

/-! ## The one line is each of them -/

omit [Backend ℓ γ] in
theorem suits_facadeReply {op : Op} {factory : Option SocketFactory}
    {r : Reply (Context ℓ η) (Cursor γ)} (suits : r.suits op) :
    (facadeReply factory op r).suits op := by
  cases op <;> cases r <;> first | rfl | cases suits

/-- A facade answers in kind if what is behind it does. -/
theorem perform_suits (inKind : AnswersInKind ℓ) (c : Context ℓ η) (op : Op)
    (w : World (Context ℓ η)) {r : Reply (Context ℓ η) (Cursor γ)}
    (returned : (c.perform op w).1 = .ok r) : r.suits op := by
  induction c generalizing w r with
  | plain c =>
      rw [perform_plain] at returned
      cases outcome : (Backend.perform op c w).1 with
      | error e => simp [outcome, Except.map] at returned
      | ok r' =>
          have suits := inKind op c w r' outcome
          obtain rfl : Reply.map plain Cursor.bare r' = r := by
            simpa [outcome, Except.map] using returned
          cases op <;> cases r' <;> first | rfl | cases suits
  | closed factory => cases returned
  | managed inner handler factory ih =>
      cases refused : refusal? inner op.ldapName? with
      | some e => rw [perform_refused refused] at returned; cases returned
      | none =>
          rw [perform_forwarded refused] at returned
          simp only at returned
          generalize answered : inner.perform op _ = x at returned
          obtain ⟨_ | r', inner', w'⟩ := x
          · cases returned
          · obtain rfl := Except.ok.inj returned
            exact suits_facadeReply (ih _ (congrArg Prod.fst answered))

/-- What a method makes of the reply of its operation. -/
def wrapping (factory : Option SocketFactory) :
    Op → Reply (Context ℓ η) (Cursor γ) → Reply (Context ℓ η) (Cursor γ)
  | .newInstance _ => Reply.map (derived · factory) id
  | .search .. => Reply.map id (Cursor.under factory)
  | .searchWithArgs .. => Reply.map id (Cursor.under factory)
  | .searchByAttributes .. => Reply.map id (Cursor.under factory)
  | _ => id

omit [Backend ℓ γ] in
theorem facadeReply_eq_wrapping {op : Op} {factory : Option SocketFactory}
    {r : Reply (Context ℓ η) (Cursor γ)} (suits : r.suits op) :
    facadeReply factory op r = wrapping factory op r := by
  cases op <;> cases r <;> first | rfl | cases suits

theorem ldapDelegate_managed {α : Type} (name : String) (x : Act (Context ℓ η) (Context ℓ η) α)
    (inner : Context ℓ η) (handler : Option η) (factory : Option SocketFactory)
    (w : World (Context ℓ η)) :
    ldapDelegate name x (managed inner handler factory) w =
      if inner.offersLdap then delegate x (managed inner handler factory) w
      else (.error (.error (.unsupported name)), managed inner handler factory, w) := by
  simp only [ldapDelegate, delegate, Act.wrapped]
  split <;> rfl

/-- What the one line comes to for an operation that is not refused. -/
theorem perform_wrapping (inKind : AnswersInKind ℓ) {inner : Context ℓ η} {op : Op}
    (accepted : refusal? inner op.ldapName? = none) (handler : Option η)
    (factory : Option SocketFactory) (w : World (Context ℓ η)) :
    perform (.managed inner handler factory) op w =
      (wrapping factory op <$> delegate (Act.under (if op.opensConnection then factory else none)
        (forward op))) (.managed inner handler factory) w := by
  rw [perform_forwarded accepted, Act.map_apply, delegate]
  simp only [Act.wrapped, Act.under_eq, forward]
  generalize answered : inner.perform op _ = x
  obtain ⟨_ | r, inner', w'⟩ := x
  · rfl
  · have suits := perform_suits inKind inner op _ (congrArg Prod.fst answered)
    simp only [Except.map, facadeReply_eq_wrapping suits]

/-- **Method by method.**  On a facade the one line for all operations is the method of each. -/
theorem perform_eq_method (inKind : AnswersInKind ℓ) {c : Context ℓ η} (facade : c.isManaged)
    (op : Op) (w : World (Context ℓ η)) : c.perform op w = method c.factory? op c w := by
  cases c with
  | plain c => cases facade
  | closed factory => cases op <;> rfl
  | managed inner handler factory =>
      cases op with
      | extendedOperation | newInstance | reconnect | setRequestControls =>
          cases offered : inner.offersLdap with
          | true =>
              rw [perform_wrapping inKind (by simp [refusal?, Op.ldapName?, offered])]
              simp [method, wrapping, ldapDelegate_managed, offered, Op.opensConnection, factory?]
          | false =>
              rw [perform_refused (by simp only [refusal?, Op.ldapName?, offered]; rfl)]
              simp [method, ldapDelegate_managed, offered, Except.map]
      | _ =>
          rw [perform_wrapping inKind rfl]
          simp [method, wrapping, Op.opensConnection, factory?]

theorem ask_eq_method {c : Context ℓ η} (facade : c.isManaged) (q : Query) :
    c.ask q = askMethod q c := by
  cases c with
  | plain c => cases facade
  | closed factory => rfl
  | managed inner handler factory =>
      cases q with
      | connectControls | requestControls | responseControls =>
          simp only [ask, askMethod, refusal?, Query.ldapName?]
          cases inner.offersLdap <;> rfl
      | _ => rfl

end Context

end ManagedLdap
