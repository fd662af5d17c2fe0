/-
# ManagedLdap.Proofs.Secrecy.Facade -- facades under a veil

A facade forwards, hands over and drops, and none of it looks at a password.  So a context
leads the same way under a veil when the plain context behind its facades does, which
`ObliviousBackend` says of a backend: contexts over a connection, scripted ones, and both side by
side.
-/
import ManagedLdap.Proofs.Secrecy.Ldap

namespace ManagedLdap

set_option autoImplicit false

open Act

variable {α γ ℓ κ σ : Type} {v : Veil}

/-! ## Backends -/

/-- What a backend does is not up to the passwords around it, nor do its contexts show any. -/
class ObliviousBackend (ℓ : Type) {γ : outParam Type} [Backend ℓ γ] [Veilable ℓ] [Veilable γ] :
    Prop where
  offersLdap : ∀ (v : Veil) (c : ℓ), Backend.offersLdap (v.cover c) = Backend.offersLdap c
  ask : ∀ (v : Veil) (c : ℓ) (q : Query), Backend.ask (v.cover c) q = v.cover (Backend.ask c q)
  perform : ∀ (v : Veil) {κ : Type} [Veilable κ] (op : Op),
    Oblivious v Any (Backend.perform op : Act κ ℓ (Reply ℓ γ)) (Backend.perform op)
  close : ∀ (v : Veil) {κ : Type} [Veilable κ],
    Oblivious v Any (Backend.close : Act κ ℓ Unit) Backend.close
  discard : ∀ (v : Veil) {κ : Type} [Veilable κ] (c : ℓ) (w : World κ),
    Backend.discard (v.cover c) (v.cover w) = v.cover (Backend.discard c w)
  shown : ∀ (v : Veil) (c : ℓ), Backend.shown (v.cover c) = Backend.shown c

instance : ObliviousBackend LdapDirContext where
  offersLdap _ _ := rfl
  ask v c q := congrArg Except.ok (Unveiled.cover_eq v (c.answer q)).symm
  perform _ _ _ op := LdapDirContext.perform_oblivious op
  close _ _ _ := LdapDirContext.close_oblivious
  discard _ _ _ c w := LdapDirContext.cover_discard c w
  shown _ _ := rfl

/-! ### Scripted contexts -/

instance : Veilable ScriptedContext where
  cover v c := { c with
    entries := v.cover c.entries
    cursorFailure := v.cover c.cursorFailure
    failures := v.cover c.failures }

namespace ScriptedContext

variable [Veilable κ]

theorem cover_failure? (v : Veil) (c : ScriptedContext) (key : String) :
    (v.cover c).failure? key = v.cover (c.failure? key) := by
  have found : ∀ key, (v.cover c).failures.get? key = v.cover (c.failures.get? key) :=
    OrderedMap.get?_mapValues v.cover c.failures
  unfold failure?
  rw [found, found]
  cases c.failures.get? key <;> rfl

/-- A script fails with what it says, under the veil. -/
theorem cover_obey (v : Veil) (c : ScriptedContext) (key : String) :
    (v.cover c).obey key = v.cover (c.obey key) := by
  unfold obey
  rw [cover_failure?]
  cases c.failure? key <;> rfl

theorem cover_changed (v : Veil) (c : ScriptedContext) (op : Op) :
    (v.cover c).changed op = v.cover (c.changed op) := by
  cases op <;> rfl

theorem cover_reply (v : Veil) (c : ScriptedContext) (op : Op) :
    (v.cover c).reply op = v.cover (c.reply op) := by
  cases op <;> rfl

theorem carryOut_oblivious (op : Op) :
    Oblivious v Any (carryOut op : Act κ ScriptedContext _) (carryOut op) := by
  refine Oblivious.withSelf fun c _ => ?_
  have rest : Oblivious v Any
      (do Act.ofExcept (c.obey op.key); Act.update fun c => c.changed op; return c.reply op :
        Act κ ScriptedContext _)
      (do Act.ofExcept ((v.cover c).obey op.key); Act.update fun c => c.changed op
          return (v.cover c).reply op) := by
    rw [cover_obey, cover_reply]
    refine (Oblivious.ofExcept (c.obey op.key)).bindSame fun _ => ?_
    exact Oblivious.changing (fun c => cover_changed v c op) (Oblivious.ret (c.reply op))
  dsimp only
  split
  · exact Oblivious.bindSame (Oblivious.record _) fun _ => rest
  · exact rest

theorem perform_oblivious (op : Op) :
    Oblivious v Any (perform op : Act κ ScriptedContext _) (perform op) := by
  unfold perform
  split
  · split
    · exact carryOut_oblivious _
    · exact Oblivious.fail (.invalidData _)
  · exact carryOut_oblivious _
  · exact carryOut_oblivious _

theorem close_oblivious : Oblivious v Any (close : Act κ ScriptedContext Unit) close := by
  refine Oblivious.withSelf fun c _ => Oblivious.bindSame (Oblivious.record _) fun _ => ?_
  rw [cover_obey]
  exact Oblivious.ofExcept _

instance : ObliviousBackend ScriptedContext where
  offersLdap _ _ := rfl
  ask v c q := by
    change ((v.cover c).obey q.key).map (fun _ => (v.cover c).answer q) =
      v.cover ((c.obey q.key).map fun _ => c.answer q)
    rw [cover_obey]
    cases c.obey q.key with
    | error failure => rfl
    | ok _ => cases q <;> rfl
  perform _ _ _ op := perform_oblivious op
  close _ _ _ := close_oblivious
  discard _ _ _ _ _ := rfl
  shown _ _ := rfl

end ScriptedContext

/-! ### Two backends side by side -/

section Sum

variable {γ₁ γ₂ ℓ₁ ℓ₂ : Type} [Veilable γ₁] [Veilable γ₂] [Veilable ℓ₁] [Veilable ℓ₂]

theorem Reply.cover_map {ℓ ℓ' γ γ' : Type} [Veilable ℓ] [Veilable ℓ'] [Veilable γ] [Veilable γ']
    (f : ℓ → ℓ') (g : γ → γ') (context : ∀ c, f (v.cover c) = v.cover (f c))
    (cursor : ∀ c, g (v.cover c) = v.cover (g c)) (r : Reply ℓ γ) :
    (v.cover r).map f g = v.cover (r.map f g) := by
  cases r with
  | context c => exact congrArg Reply.context (context c)
  | entries c => exact congrArg Reply.entries (cursor c)
  | _ => rfl

instance [Backend ℓ₁ γ₁] [Backend ℓ₂ γ₂] [ObliviousBackend ℓ₁] [ObliviousBackend ℓ₂] :
    ObliviousBackend (ℓ₁ ⊕ ℓ₂) where
  offersLdap v c := by
    cases c with
    | inl c => exact ObliviousBackend.offersLdap v c
    | inr c => exact ObliviousBackend.offersLdap v c
  ask v c q := by
    cases c with
    | inl c => exact ObliviousBackend.ask v c q
    | inr c => exact ObliviousBackend.ask v c q
  perform v _ _ op :=
    .either
      ((ObliviousBackend.perform v op).map (Reply.cover_map _ _ (fun _ => rfl) fun _ => rfl))
      ((ObliviousBackend.perform v op).map (Reply.cover_map _ _ (fun _ => rfl) fun _ => rfl))
  close v _ _ := .either (ObliviousBackend.close v) (ObliviousBackend.close v)
  discard v _ _ c w := by
    cases c with
    | inl c => exact ObliviousBackend.discard v c w
    | inr c => exact ObliviousBackend.discard v c w
  shown v c := by
    cases c with
    | inl c => exact ObliviousBackend.shown v c
    | inr c => exact ObliviousBackend.shown v c

end Sum

/-! ## Contexts -/

instance : Veilable CloseHandler where
  cover v
    | .refusing failure => .refusing (v.cover failure)
    | handler => handler

namespace Context

/-- The same facades around another plain context. -/
def mapPlain (f : ℓ → ℓ) (g : CloseHandler → CloseHandler) : Context ℓ → Context ℓ
  | .plain c => .plain (f c)
  | .managed inner handler factory => .managed (mapPlain f g inner) (handler.map g) factory
  | .closed factory => .closed factory

instance [Veilable ℓ] : Veilable (Context ℓ) := ⟨fun v => mapPlain v.cover v.cover⟩

/-- What a facade makes of a reply holds no more passwords than the reply. -/
theorem cover_facadeReply [Veilable ℓ] [Veilable γ] (factory : Option SocketFactory) (op : Op)
    (r : Reply (Context ℓ) (Cursor γ)) :
    facadeReply factory op (v.cover r) = v.cover (facadeReply factory op r) := by
  cases op <;> cases r <;> rfl

section Views

variable [Veilable ℓ]

theorem cover_factory? (v : Veil) (c : Context ℓ) : (v.cover c).factory? = c.factory? := by
  cases c <;> rfl

theorem cover_hasCloseHandler (v : Veil) (c : Context ℓ) :
    (v.cover c).hasCloseHandler = c.hasCloseHandler := by
  cases c with
  | managed inner handler factory => cases handler <;> rfl
  | _ => rfl

theorem cover_isClosed (v : Veil) (c : Context ℓ) : (v.cover c).isClosed = c.isClosed := by
  cases c <;> rfl

end Views

/-- A refusal is about a name. -/
theorem cover_refused [Backend ℓ γ] {inner : Context ℓ} {name : Option String} {e : DirError}
    (refused : refusal? inner name = some e) : v.cover e = e := by
  unfold refusal? at refused
  split at refused
  · split at refused
    · cases refused
    · cases refused
      rfl
  · cases refused

variable [Veilable ℓ] [Backend ℓ γ] [Veilable γ] [ObliviousBackend ℓ]

theorem cover_offersLdap (v : Veil) (c : Context ℓ) : (v.cover c).offersLdap = c.offersLdap := by
  cases c with
  | plain c => exact ObliviousBackend.offersLdap v c
  | _ => rfl

theorem cover_shown (v : Veil) (c : Context ℓ) : (v.cover c).shown = c.shown := by
  induction c with
  | plain c => exact ObliviousBackend.shown v c
  | managed inner handler factory ih =>
      change Shown.record _ [_, (_, .bool (handler.map v.cover).isSome), _,
        (_, .wrapped _ (v.cover inner).shown)] _ = _
      rw [ih, Option.isSome_map]
      rfl
  | closed factory => rfl

theorem cover_refusal? (v : Veil) (inner : Context ℓ) (name : Option String) :
    refusal? (v.cover inner) name = refusal? inner name := by
  unfold refusal?
  rw [cover_offersLdap]

theorem cover_ask (v : Veil) (c : Context ℓ) (q : Query) :
    (v.cover c).ask q = v.cover (c.ask q) := by
  induction c with
  | plain c => exact ObliviousBackend.ask v c q
  | managed inner handler factory ih =>
      change (managed (v.cover inner) (v.cover handler) factory).ask q = _
      cases refused : refusal? inner q.ldapName? with
      | some e =>
          rw [ask_refused ((cover_refusal? v inner _).trans refused), ask_refused refused]
          exact congrArg (fun e => (Except.error (.error e) : Except Failure Answer))
            (cover_refused refused).symm
      | none =>
          rw [ask_forwarded ((cover_refusal? v inner _).trans refused), ask_forwarded refused]
          exact ih
  | closed factory => rfl

theorem cover_nameOf (v : Veil) (c : Context ℓ) : (v.cover c).nameOf = v.cover c.nameOf := by
  unfold nameOf
  rw [cover_ask]
  cases c.ask .nameInNamespace with
  | error failure => cases failure <;> rfl
  | ok answer => cases answer <;> rfl

/-! ### Operations -/

theorem cover_perform (c : Context ℓ) (op : Op) (w : World (Context ℓ)) :
    (v.cover c).perform op (v.cover w) = v.cover (c.perform op w) := by
  induction c generalizing w with
  | plain c =>
      change (plain (v.cover c)).perform op (v.cover w) = _
      rw [perform_plain, perform_plain, (ObliviousBackend.perform v op c w trivial).2]
      exact Prod.ext
        (cover_exceptMap (Reply.cover_map plain Cursor.bare (fun _ => rfl) fun _ => rfl) _) rfl
  | managed inner handler factory ih =>
      change (managed (v.cover inner) (v.cover handler) factory).perform op (v.cover w) = _
      cases refused : refusal? inner op.ldapName? with
      | some e =>
          rw [perform_refused ((cover_refusal? v inner _).trans refused), perform_refused refused]
          exact congrArg (fun e => (Except.error (Failure.error e), _, v.cover w))
            (cover_refused refused).symm
      | none =>
          rw [perform_forwarded ((cover_refusal? v inner _).trans refused),
            perform_forwarded refused]
          have inside : ∀ slot, perform (v.cover inner) op { v.cover w with slot := slot } =
              v.cover (perform inner op { w with slot := slot }) :=
            fun slot => ih { w with slot := slot }
          dsimp only
          rw [inside]
          exact Prod.ext (cover_exceptMap (cover_facadeReply factory op) _) rfl
  | closed factory => rfl

/-! ### Closing and dropping -/

theorem cover_discardClosed (c : Context ℓ) (w : World (Context ℓ)) :
    (v.cover c).discardClosed (v.cover w) = v.cover (c.discardClosed w) := by
  cases c with
  | plain c => exact ObliviousBackend.discard v c w
  | _ => rfl

/-- Dropping is closing, whose error ends as a message. -/
theorem cover_dropBy
    {closeIt closeIt' : World (Context ℓ) → Except Failure Unit × Context ℓ × World (Context ℓ)}
    (same : ∀ w, closeIt' (v.cover w) = v.cover (closeIt w)) (c : Context ℓ)
    (w : World (Context ℓ)) :
    (v.cover c).dropBy closeIt' (v.cover w) = v.cover (c.dropBy closeIt w) := by
  cases c with
  | plain c => exact congrArg (Prod.mk (Except.ok ())) (ObliviousBackend.discard v c w)
  | closed factory => rfl
  | managed inner handler factory =>
      change dropBy closeIt' (managed (v.cover inner) (v.cover handler) factory) (v.cover w) = _
      simp only [dropBy]
      rw [same]
      rcases closeIt w with ⟨(e | _) | _, c', w'⟩
      · exact congrArg (Prod.mk (Except.ok ())) (World.cover_warn w' (.closingDropped e))
      · rfl
      · rfl

theorem cover_recordHandedBack (inner : Context ℓ) (w : World (Context ℓ)) :
    (v.cover inner).recordHandedBack (v.cover w) = v.cover (inner.recordHandedBack w) := by
  unfold recordHandedBack
  rw [cover_nameOf]
  rcases inner.nameOf with failure | _ | name <;> rfl

/-- A close handler fails with what it is to fail with, under the veil. -/
theorem cover_handle
    {closeInner closeInner' :
      World (Context ℓ) → Except Failure Unit × Context ℓ × World (Context ℓ)}
    (same : ∀ w, closeInner' (v.cover w) = v.cover (closeInner w)) (handler : CloseHandler)
    (inner : Context ℓ) (w : World (Context ℓ)) :
    Handling.handle (v.cover handler) (v.cover inner) closeInner' (v.cover w) =
      v.cover (Handling.handle handler inner closeInner w) := by
  have recorded := cover_recordHandedBack (v := v) inner w
  cases handler with
  | intoPool =>
      change Handling.handle CloseHandler.intoPool _ _ _ = _
      simp only [Handling.handle, recorded]
      rcases inner.recordHandedBack w with ⟨failure | _, w'⟩
      · exact congrArg (fun z => (Except.error (v.cover failure), z.2))
          (cover_dropBy same inner w')
      · exact congrArg (fun pool => (Except.ok (), { v.cover w' with pool := pool }))
          (cover_snoc w'.pool inner).symm
  | refusing failure =>
      change Handling.handle (CloseHandler.refusing (v.cover failure)) _ _ _ = _
      simp only [Handling.handle, recorded]
      rcases inner.recordHandedBack w with ⟨noted, w'⟩
      have left : (v.cover (noted, w')).2 = v.cover w' := rfl
      rw [left, cover_dropBy same inner w']
      rcases inner.dropBy closeInner w' with ⟨_ | _, w''⟩
      · rfl
      · cases noted <;> rfl
  | closing =>
      change Handling.handle CloseHandler.closing _ _ _ = _
      simp only [Handling.handle]
      rw [same]
      rcases closeInner w with ⟨r, inner', w'⟩
      exact congrArg (Prod.mk (v.cover r)) (cover_discardClosed inner' w')

/-- Closing leads the same way under a veil, through any number of facades. -/
theorem cover_close (c : Context ℓ) (w : World (Context ℓ)) :
    (v.cover c).close (v.cover w) = v.cover (c.close w) := by
  induction c generalizing w with
  | plain c => exact cover_wrapped plain (fun _ => rfl) (ObliviousBackend.close v) c w
  | managed inner handler factory ih =>
      cases handler with
      | some handler =>
          exact congrArg (fun z => (z.1, (closed factory : Context ℓ), z.2))
            (cover_handle ih handler inner w)
      | none =>
          have closed' := congrArg
            (fun z => (z.1, (closed factory : Context ℓ), z.2.1.discardClosed z.2.2)) (ih w)
          have swept := cover_discardClosed (v := v) (inner.close w).2.1 (inner.close w).2.2
          exact closed'.trans (Prod.ext rfl (Prod.ext rfl swept))
  | closed factory => rfl

theorem cover_drop (c : Context ℓ) (w : World (Context ℓ)) :
    (v.cover c).drop (v.cover w) = v.cover (c.drop w) :=
  cover_dropBy (cover_close c) c w

theorem cover_dropAll (cs : List (Context ℓ)) (w : World (Context ℓ)) :
    dropAll (v.cover cs) (v.cover w) = v.cover (dropAll cs w) := by
  induction cs generalizing w with
  | nil => rfl
  | cons c rest ih =>
      change dropAll (v.cover c :: v.cover rest) (v.cover w) = _
      rw [dropAll, dropAll, cover_drop]
      rcases c.drop w with ⟨_ | _, w'⟩
      · rfl
      · exact ih w'

/-! ### Opening further contexts -/

theorem openFor_oblivious [Veilable α] [Veilable σ] {I : σ → Prop} (c : Context ℓ)
    {x y : Act (Context ℓ) σ α} (oblivious : Oblivious v I x y) :
    Oblivious v I (c.openFor x) ((v.cover c).openFor y) := by
  cases c with
  | plain c => exact Oblivious.under none oblivious
  | managed inner handler factory => exact Oblivious.under factory oblivious
  | closed factory => exact Oblivious.fail .closed

theorem follow_oblivious [Veilable σ] {I : σ → Prop} (c : Context ℓ)
    {x y : Act (Context ℓ) σ (Context ℓ)} (oblivious : Oblivious v I x y) :
    Oblivious v I (c.follow x) ((v.cover c).follow y) := by
  unfold follow
  rw [cover_factory?]
  exact Oblivious.bind (openFor_oblivious c oblivious) fun referred =>
    Oblivious.ret (derived referred c.factory?)

end Context

end ManagedLdap
