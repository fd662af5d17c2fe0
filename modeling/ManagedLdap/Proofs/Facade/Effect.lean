/-
# ManagedLdap.Proofs.Facade.Effect -- what a call comes to for the facade it is made on

A call either gives its facade up or keeps it, and the two have nothing in common.  Giving up is
the disposal of the context behind the facade, once, in the world the call found, and leaves the
facade closed (`effect_givesUp`).  Every other call leaves the same facade around the same
context, as the call left that (`effect_keeps`), and it would have come to the same with other
close handlers and another way to close contexts: those have no part in it (`effect_unaided`).
On a closed facade nothing reaches anybody (`effect_closed`).

Contexts, close handlers and the sources of further contexts are any: nothing here asks what
they answer or what they do to the world.
-/
import ManagedLdap.Proofs.Facade.Slot

namespace ManagedLdap

set_option autoImplicit false

/-- The same contexts, but for what closing them and giving them up does. -/
@[reducible] def Backend.closedBy {ℓ γ : Type} [backend : Backend ℓ γ]
    (close : {κ : Type} → Act κ ℓ Unit) (discard : {κ : Type} → ℓ → World κ → World κ) :
    Backend ℓ γ :=
  { backend with close := close, discard := discard }

/-- What comes of a call. -/
structure Effect (ℓ η : Type) where
  outcome : Except Failure Unit
  /-- What becomes of the facade: nothing when it was dropped. -/
  left : Option (Context ℓ η)
  /-- The facades that were made. -/
  made : List (Context ℓ η)
  world : World (Context ℓ η)

namespace FacadeCall

variable {ℓ γ η : Type}

/-- The facades an operation hands out: the further instance. -/
def handedOut (op : Op) : Except Failure (Reply (Context ℓ η) (Cursor γ)) → List (Context ℓ η)
  | .ok (.context c) =>
      match op with
      | .newInstance _ => [c]
      | _ => []
  | _ => []

section

variable [Backend ℓ γ] [Handling ℓ η]

/-- Make a call on a facade and keep what comes of it. -/
def effect (k : FacadeCall ℓ η Unit) (c : Context ℓ η) (w : World (Context ℓ η)) :
    Effect ℓ η where
  outcome := (k.run c () w).1
  left :=
    match k with
    | .perform op => some (c.perform op w).2.1
    | .close => some (c.close w).2.1
    | .drop => none
    | _ => some c
  made :=
    match k with
    | .perform op => handedOut op (c.perform op w).1
    | .follow referral => (c.follow referral () w).1.toOption.toList
    | _ => []
  world := (k.run c () w).2.2

end

/-! ## Calls on a closed facade -/

section

variable [Backend ℓ γ] [Handling ℓ η]

/-- A call on a facade that was closed does nothing: giving it up again succeeds, and
everything else is refused. -/
theorem effect_closed (k : FacadeCall ℓ η Unit) (factory : Option SocketFactory)
    (w : World (Context ℓ η)) :
    (k.effect (.closed factory) w).world = w ∧
      (k.effect (.closed factory) w).outcome =
        (if k.givesUp then .ok () else .error (.error .closed)) ∧
      (∀ c ∈ (k.effect (.closed factory) w).left, c = .closed factory) ∧
      (k.effect (.closed factory) w).made = [] := by
  cases k <;> exact ⟨rfl, rfl, fun c left => by cases left <;> rfl, rfl⟩

/-! ## Calls that give a facade up -/

/-- Giving an open facade up is the disposal of the context behind it, and closes the facade
however that ended. -/
theorem effect_givesUp {k : FacadeCall ℓ η Unit} (gives : k.givesUp) (inner : Context ℓ η)
    (handler : Option η) (factory : Option SocketFactory) (w : World (Context ℓ η)) :
    let x := disposal inner handler () w
    ((k.effect (.managed inner handler factory) w).outcome,
        (k.effect (.managed inner handler factory) w).world) = k.conclude x.1 x.2.2 ∧
      (∀ c ∈ (k.effect (.managed inner handler factory) w).left, c = .closed factory) ∧
      (k.effect (.managed inner handler factory) w).made = [] := by
  have effect := k.run_eq (c := .managed inner handler factory) rfl () w
  cases k with
  | close =>
      refine ⟨?_, ?_, rfl⟩
      · simp only [FacadeCall.effect, effect]
        rfl
      · intro c left
        obtain rfl := Option.some.inj left
        exact Context.close_managed inner handler factory w
  | drop =>
      refine ⟨?_, fun c left => (by cases left), rfl⟩
      simp only [FacadeCall.effect, effect]
      rfl
  | _ => cases gives

/-! ## Calls that keep a facade -/

/-- The context behind a facade after a call that keeps it: as the operation left it that was
forwarded to it, and otherwise as it was. -/
def behind (k : FacadeCall ℓ η Unit) (inner : Context ℓ η) (factory : Option SocketFactory)
    (w : World (Context ℓ η)) : Context ℓ η :=
  match k with
  | .perform op =>
      match Context.refusal? inner op.ldapName? with
      | some _ => inner
      | none =>
          let scope := if op.opensConnection then factory else none
          (inner.perform op { w with slot := scope.or w.slot }).2.1
  | _ => inner

/-- A call that keeps a facade keeps its handler and its factory. -/
theorem effect_keeps {k : FacadeCall ℓ η Unit} (keeps : k.givesUp = false) (inner : Context ℓ η)
    (handler : Option η) (factory : Option SocketFactory) (w : World (Context ℓ η)) :
    (k.effect (.managed inner handler factory) w).left =
      some (.managed (k.behind inner factory w) handler factory) := by
  cases k with
  | perform op =>
      simp only [effect, behind]
      cases refused : Context.refusal? inner op.ldapName? with
      | some e => rw [Context.perform_refused refused]
      | none => rw [Context.perform_forwarded refused]
  | close => cases keeps
  | drop => cases keeps
  | _ => rfl

/-- A facade stays a facade. -/
theorem effect_left_isManaged (k : FacadeCall ℓ η Unit) {c : Context ℓ η} (facade : c.isManaged)
    (w : World (Context ℓ η)) : ∀ d ∈ (k.effect c w).left, d.isManaged := by
  intro d left
  cases c with
  | plain c => cases facade
  | closed factory => rw [(effect_closed k factory w).2.2.1 d left]; rfl
  | managed inner handler factory =>
      cases gives : k.givesUp with
      | true => rw [(effect_givesUp gives inner handler factory w).2.1 d left]; rfl
      | false =>
          rw [effect_keeps gives] at left
          obtain rfl := Option.some.inj left
          rfl

omit [Backend ℓ γ] [Handling ℓ η] in
/-- A further instance that a facade hands out has a facade without a handler. -/
theorem handedOut_facadeReply {op : Op} {factory : Option SocketFactory}
    {r : Except Failure (Reply (Context ℓ η) (Cursor γ))} {d : Context ℓ η}
    (made : d ∈ handedOut op (r.map (Context.facadeReply factory op))) :
    ∃ inner, d = Context.derived inner factory := by
  rcases r with _ | r
  · cases made
  · cases op with
    | newInstance controls =>
        cases r with
        | context inner => exact ⟨inner, List.mem_singleton.1 made⟩
        | _ => cases made
    | _ => cases r <;> cases made

/-- Whatever facade is handed out, it has no handler. -/
theorem effect_made (k : FacadeCall ℓ η Unit) {c : Context ℓ η} (facade : c.isManaged)
    (w : World (Context ℓ η)) :
    ∀ d ∈ (k.effect c w).made, ∃ inner factory, d = Context.derived inner factory := by
  intro d made
  cases c with
  | plain c => cases facade
  | closed factory => simp [(effect_closed k factory w).2.2.2] at made
  | managed inner handler factory =>
      cases k with
      | perform op =>
          cases refused : Context.refusal? inner op.ldapName? with
          | some e => simp [effect, Context.perform_refused refused, handedOut] at made
          | none =>
              simp only [effect, Context.perform_forwarded refused] at made
              obtain ⟨instanced, rfl⟩ := handedOut_facadeReply made
              exact ⟨instanced, factory, rfl⟩
      | follow referral =>
          simp only [effect, Context.follow_eq] at made
          cases supplied : (Context.openFor (.managed inner handler factory) referral () w).1 with
          | error f => simp [supplied, Except.map, Except.toOption] at made
          | ok referred =>
              simp only [supplied] at made
              exact ⟨referred, factory, List.mem_singleton.1 made⟩
      | _ => cases made

end

/-! ### Nobody else has a part in them -/

section

variable [backend : Backend ℓ γ]

theorem perform_closedBy (close : {κ : Type} → Act κ ℓ Unit)
    (discard : {κ : Type} → ℓ → World κ → World κ) (c : Context ℓ η) (op : Op)
    (w : World (Context ℓ η)) :
    @Context.perform ℓ γ η (Backend.closedBy close discard) c op w = c.perform op w := by
  induction c generalizing w with
  | plain c => rfl
  | closed factory => rfl
  | managed inner handler factory ih =>
      have offers : @Context.offersLdap ℓ γ η (Backend.closedBy close discard) inner =
          inner.offersLdap := by cases inner <;> rfl
      simp only [Context.perform, Context.refusal?, offers, ih]

theorem ask_closedBy (close : {κ : Type} → Act κ ℓ Unit)
    (discard : {κ : Type} → ℓ → World κ → World κ) (c : Context ℓ η) (q : Query) :
    @Context.ask ℓ γ η (Backend.closedBy close discard) c q = c.ask q := by
  induction c with
  | plain c => rfl
  | closed factory => rfl
  | managed inner handler factory ih =>
      have offers : @Context.offersLdap ℓ γ η (Backend.closedBy close discard) inner =
          inner.offersLdap := by cases inner <;> rfl
      simp only [Context.ask, Context.refusal?, offers, ih]

variable [handling : Handling ℓ η]

/-- A call that keeps its facade runs no handler, closes nothing and gives no context up: it
comes to the same whatever these would do. -/
theorem effect_unaided {k : FacadeCall ℓ η Unit} (keeps : k.givesUp = false)
    (close : {κ : Type} → Act κ ℓ Unit) (discard : {κ : Type} → ℓ → World κ → World κ)
    (others : Handling ℓ η) (c : Context ℓ η) (w : World (Context ℓ η)) :
    @effect ℓ γ η (Backend.closedBy close discard) others k c w =
      @effect ℓ γ η backend handling k c w := by
  cases k with
  | ask q => simp only [effect, run, ask_closedBy]
  | perform op => simp only [effect, run, perform_closedBy]
  | close => cases keeps
  | drop => cases keeps
  | _ => rfl

end

end FacadeCall

end ManagedLdap
