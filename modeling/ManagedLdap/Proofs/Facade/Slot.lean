/-
# ManagedLdap.Proofs.Facade.Slot -- what a facade does to the slot of its thread

Code behind a facade takes its socket factory from the slot of the thread, so a facade that
fills the slot for the wrong call hands its factory to somebody who never asked for it, and
one that fills it too late, or not at all, lets a connection be opened without.

`FacadeCall.reach` says who a call of a facade gets to: nobody, when the facade answers for
itself, or the callee behind it.  `run_eq` is the whole effect of a call in these terms, for
any backend, any close handler and any source of further contexts: nobody reached means
nothing changed, and a callee runs once, in the world the call found, under the factory of the
facade if the call lends it and under the slot as it was if not.  `slot_effect` is what this
comes to for the slot, whether the callee returns, fails or panics.
-/
import ManagedLdap.Managed
import ManagedLdap.Script.Context

namespace ManagedLdap

set_option autoImplicit false

/-! ## Calls of a facade -/

/-- A call of a facade.  Where further contexts come from is an object of its own, of type
`σ`: a referral, or a factory of initial contexts. -/
inductive FacadeCall (ℓ η σ : Type) where
  | ask (q : Query)
  | perform (op : Op)
  | initial (factory : Act (Context ℓ η) σ (Context ℓ η))
  | follow (referral : Act (Context ℓ η) σ (Context ℓ η))
  | close
  | drop

/-- Who a call gets to. -/
inductive Reached (ℓ η σ : Type) where
  /-- Nobody: the facade answers for itself. -/
  | nobody (answer : Except Failure Unit)
  | callee (x : Act (Context ℓ η) σ Unit)

namespace FacadeCall

variable {ℓ γ η σ : Type}

/-- Whether a call may open a connection, and lends the factory of the facade for it. -/
def lends : FacadeCall ℓ η σ → Bool
  | .perform op => op.opensConnection
  | .initial _ => true
  | .follow _ => true
  | _ => false

/-- Whether the caller gives the facade up. -/
def givesUp : FacadeCall ℓ η σ → Bool
  | .close => true
  | .drop => true
  | _ => false

/-- The factory that a call lends. -/
def lent (k : FacadeCall ℓ η σ) (c : Context ℓ η) : Option SocketFactory :=
  if k.lends then c.factory? else none

/-- What a call makes of how its callee ended: an error on dropping is only reported. -/
def conclude (k : FacadeCall ℓ η σ) (r : Except Failure Unit) (w : World (Context ℓ η)) :
    Except Failure Unit × World (Context ℓ η) :=
  match k, r with
  | .drop, .error (.error e) => (.ok (), w.warn (.closingDropped e))
  | _, r => (r, w)

/-- What a call makes of its callee: the conclusion, after the scope has ended. -/
def finish (k : FacadeCall ℓ η σ) (lent : Option SocketFactory)
    (x : Except Failure Unit × σ × World (Context ℓ η)) :
    Except Failure Unit × σ × World (Context ℓ η) :=
  let y := k.conclude x.1 x.2.2
  (y.1, x.2.1, { y.2 with slot := if lent.isSome then none else y.2.slot })

theorem conclude_slot (k : FacadeCall ℓ η σ) (r : Except Failure Unit) (w : World (Context ℓ η)) :
    (k.conclude r w).2.slot = w.slot := by
  unfold conclude
  split <;> rfl

variable [Backend ℓ γ] [Handling ℓ η]

/-- Make a call: how it ends, and what became of the object and the world. -/
def run (k : FacadeCall ℓ η σ) (c : Context ℓ η) : Act (Context ℓ η) σ Unit := fun s w =>
  match k with
  | .ask q => ((c.ask q).map fun _ => (), s, w)
  | .perform op =>
      match c.perform op w with
      | (r, _, w) => (r.map fun _ => (), s, w)
  | .initial factory =>
      match c.openFor factory s w with
      | (r, s, w) => (r.map fun _ => (), s, w)
  | .follow referral =>
      match c.follow referral s w with
      | (r, s, w) => (r.map fun _ => (), s, w)
  | .close =>
      match c.close w with
      | (r, _, w) => (r, s, w)
  | .drop =>
      match c.drop w with
      | (r, w) => (r, s, w)

/-- What becomes of the context behind a facade that is given up: its handler gets it, or
without one it is closed. -/
def disposal (inner : Context ℓ η) (handler : Option η) : Act (Context ℓ η) σ Unit := fun s w =>
  match handler with
  | some h =>
      match Handling.handle h inner (fun w => inner.close w) w with
      | (r, w) => (r, s, w)
  | none =>
      match inner.close w with
      | (r, inner, w) => (r, s, inner.discardClosed w)

/-- Who a call of a facade gets to.  A closed facade answers everything itself, and an open
one refuses what belongs to a capability that the context behind it lacks. -/
def reach (k : FacadeCall ℓ η σ) : Context ℓ η → Reached ℓ η σ
  | .managed inner handler _ =>
      match k with
      | .ask q =>
          match Context.refusal? inner q.ldapName? with
          | some e => .nobody (.error (.error e))
          | none => .callee fun s w => ((inner.ask q).map fun _ => (), s, w)
      | .perform op =>
          match Context.refusal? inner op.ldapName? with
          | some e => .nobody (.error (.error e))
          | none => .callee fun s w =>
              match inner.perform op w with
              | (r, _, w) => (r.map fun _ => (), s, w)
      | .initial x => .callee ((fun _ => ()) <$> x)
      | .follow x => .callee ((fun _ => ()) <$> x)
      | .close => .callee (disposal inner handler)
      | .drop => .callee (disposal inner handler)
  | _ => .nobody (if k.givesUp then .ok () else .error (.error .closed))

omit [Handling ℓ η] in
/-- A refusal for want of a capability names the operation. -/
theorem refusal?_eq_some {inner : Context ℓ η} {name : Option String} {e : DirError}
    (refused : Context.refusal? inner name = some e) : ∃ n, name = some n ∧ e = .unsupported n := by
  unfold Context.refusal? at refused
  cases name with
  | none => cases refused
  | some n =>
      by_cases offered : inner.offersLdap = true
      · simp [offered] at refused
      · simp only [offered, Bool.false_eq_true, if_false] at refused
        exact ⟨n, rfl, (Option.some.inj refused).symm⟩

/-- Giving up an open facade disposes of the context behind it. -/
theorem close_eq_disposal (inner : Context ℓ η) (handler : Option η)
    (factory : Option SocketFactory) (s : σ) (w : World (Context ℓ η)) :
    ∃ r w', disposal inner handler s w = (r, s, w') ∧
      (Context.managed inner handler factory).close w = (r, .closed factory, w') := by
  cases handler <;> exact ⟨_, _, rfl, rfl⟩

omit [Backend ℓ γ] [Handling ℓ η] in
/-- Whether something was returned does not depend on what is made of it. -/
theorem map_done {α β : Type} (f : α → β) (r : Except Failure α) :
    (r.map f).map (fun _ => ()) = r.map fun _ => () := by
  cases r <;> rfl

/-- The effect of a call: nothing when it reaches nobody, and otherwise that of its callee in
the scope of what the call lends. -/
theorem run_eq (k : FacadeCall ℓ η σ) {c : Context ℓ η} (facade : c.isManaged) (s : σ)
    (w : World (Context ℓ η)) :
    k.run c s w =
      match k.reach c with
      | .nobody answer => (answer, s, w)
      | .callee x => k.finish (k.lent c) (x s { w with slot := (k.lent c).or w.slot }) := by
  cases c with
  | plain c => cases facade
  | closed factory => cases k <;> rfl
  | managed inner handler factory =>
      cases k with
      | ask q =>
          simp only [run, reach, Context.ask]
          cases refused : Context.refusal? inner q.ldapName? <;> rfl
      | perform op =>
          simp only [run, reach]
          cases refused : Context.refusal? inner op.ldapName? with
          | some e =>
              rw [Context.perform_refused refused]
              rfl
          | none =>
              rw [Context.perform_forwarded refused]
              simp only [map_done]
              rfl
      | initial x =>
          simp only [run, reach, Context.openFor, Act.under_eq, Act.map_apply]
          rfl
      | follow x =>
          simp only [run, reach, Context.follow_eq, Context.openFor, Act.under_eq, Act.map_apply]
          simp only [Context.factory?, map_done]
          rfl
      | close =>
          obtain ⟨r, w', disposed, closed⟩ := close_eq_disposal inner handler factory s w
          have unscoped : disposal inner handler s
              { w with slot := (none : Option SocketFactory).or w.slot } = (r, s, w') := disposed
          simp only [run, reach, closed, lent, lends, Bool.false_eq_true, if_false, unscoped]
          rfl
      | drop =>
          obtain ⟨r, w', disposed, closed⟩ := close_eq_disposal inner handler factory s w
          have unscoped : disposal inner handler s
              { w with slot := (none : Option SocketFactory).or w.slot } = (r, s, w') := disposed
          simp only [run, reach, Context.drop, Context.dropBy, closed, lent, lends,
            Bool.false_eq_true, if_false, unscoped]
          rcases r with (e | _) | _ <;> rfl

/-- When a facade answers for itself: it was closed, or it refuses an operation by its name. -/
theorem reach_nobody {k : FacadeCall ℓ η σ} {c : Context ℓ η} {answer : Except Failure Unit}
    (facade : c.isManaged) (alone : k.reach c = .nobody answer) :
    (c.isClosed ∧ answer = if k.givesUp then .ok () else .error (.error .closed)) ∨
      ∃ name, answer = .error (.error (.unsupported name)) := by
  cases c with
  | plain c => cases facade
  | closed factory =>
      obtain rfl := Reached.nobody.inj alone
      exact .inl ⟨rfl, rfl⟩
  | managed inner handler factory =>
      -- Only questions and operations can be refused.
      refine .inr ?_
      cases k with
      | ask q =>
          simp only [reach] at alone
          cases refused : Context.refusal? inner q.ldapName? with
          | none => simp [refused] at alone
          | some e =>
              obtain ⟨name, -, rfl⟩ := refusal?_eq_some refused
              simp only [refused] at alone
              exact ⟨name, (Reached.nobody.inj alone).symm⟩
      | perform op =>
          simp only [reach] at alone
          cases refused : Context.refusal? inner op.ldapName? with
          | none => simp [refused] at alone
          | some e =>
              obtain ⟨name, -, rfl⟩ := refusal?_eq_some refused
              simp only [refused] at alone
              exact ⟨name, (Reached.nobody.inj alone).symm⟩
      | _ => cases alone

/-- **The slot.**  A call that the facade answers for itself, because it was closed or for
want of a capability, changes nothing.  Any other call runs its callee once, in the world it
found but for the slot: a reconnect, an initial context and a referral find the factory of the
facade there if it has one, and every other callee finds what was there before.  However the
callee ends, if it leaves the slot as it found it, the slot is then empty if a factory was
lent, and otherwise as it was before the call. -/
theorem slot_effect (k : FacadeCall ℓ η σ) {c : Context ℓ η} (facade : c.isManaged) (s : σ)
    (w : World (Context ℓ η)) :
    match k.reach c with
    | .nobody answer =>
        k.run c s w = (answer, s, w) ∧
          ((c.isClosed ∧ answer = if k.givesUp then .ok () else .error (.error .closed)) ∨
            ∃ name, answer = .error (.error (.unsupported name)))
    | .callee x =>
        let seen := (k.lent c).or w.slot
        let y := x s { w with slot := seen }
        k.run c s w = k.finish (k.lent c) y ∧
          (y.2.2.slot = seen →
            (k.run c s w).2.2.slot = if (k.lent c).isSome then none else w.slot) := by
  have effect := k.run_eq facade s w
  cases reached : k.reach c with
  | nobody answer =>
      simp only [reached] at effect
      exact ⟨effect, reach_nobody facade reached⟩
  | callee x =>
      simp only [reached] at effect
      refine ⟨effect, ?_⟩
      intro kept
      rw [effect]
      simp only [finish, conclude_slot]
      cases none_lent : k.lent c with
      | some f => rfl
      | none =>
          rw [none_lent] at kept
          exact kept

/-- A reconnect that panics behind a facade with a factory of its own, on a thread where
another one was left: the facade's was in effect, and the slot is empty. -/
theorem slot_effect_of_panic :
    let own : SocketFactory := .named "own"
    let core : ScriptedContext :=
      { name := "dc=x", ldap := true, failures := OrderedMap.empty.insert "reconnect" .panic }
    let c : Context ScriptedContext := .managed (.plain core) none (some own)
    let w : World (Context ScriptedContext) := { slot := some (.named "other"), network := .isolated }
    let k : FacadeCall ScriptedContext CloseHandler Unit := .perform (.reconnect [])
    c.isManaged = true ∧ (k.run c () w).1 = .error .panic ∧
      (k.run c () w).2.2.events = [⟨.called "dc=x" (.reconnect []), some own⟩] ∧
      (k.run c () w).2.2.slot = none := by
  intro own core c w k
  obtain ⟨effect, empty⟩ := k.slot_effect (c := c) rfl () w
  refine ⟨rfl, ?_, ?_, empty rfl⟩
  · rw [effect]
    rfl
  · rw [effect]
    rfl

end FacadeCall

end ManagedLdap
