/-
# ManagedLdap.Proofs.Secrecy.Session -- whole sessions under a veil

A session starts from what its script states, so a veil over the script is a veil over the whole
run: what is kept, the network, every report (`Session.run_cover`).  The one place that looks at
a password is where a factory is made, which asks whether there is one.  That is a fault of the
configuration, so no factory that is kept has it (`Tables.Valid`), and from there on the
configured identity is the veiled one.
-/
import ManagedLdap.Proofs.Secrecy.Facade
import ManagedLdap.Session.Run

namespace ManagedLdap

set_option autoImplicit false

open Act

variable {α β κ σ : Type} [Veilable α] [Veilable β] [Veilable κ] [Veilable σ] {v : Veil}
  {I : σ → Prop}

/-! ## What is shown -/

@[simp] theorem LdapConfig.cover_shown (v : Veil) (c : LdapConfig) :
    (v.cover c).shown = c.shown := by
  have hidden : Shown.option (fun _ => Shown.text redaction) (v.configured c.bindPassword) =
      Shown.option (fun _ => .text redaction) c.bindPassword := by
    have present := v.present c.bindPassword
    cases written : c.bindPassword with
    | none =>
        rw [written, Option.isSome_none, Option.isSome_eq_false_iff, Option.isNone_iff_eq_none]
          at present
        rw [present]
    | some p =>
        rw [written, Option.isSome_some, Option.isSome_iff_exists] at present
        obtain ⟨q, present⟩ := present
        rw [present]
        rfl
  change Shown.record _ [_, _, _, _, _, _,
    (_, .option (fun _ => .text redaction) (v.configured c.bindPassword)), _, _, _, _] _ = _
  rw [hidden]
  rfl

@[simp] theorem Referral.cover_shown (v : Veil) (r : Referral) : (v.cover r).shown = r.shown := by
  cases r with
  | scripted r => rfl
  | ldap r =>
      have origin : (v.cover r.origin).shown = r.origin.shown := by
        change Shown.record _ [(_, (v.cover r.origin.config).shown), _, _, _, _] _ = _
        rw [LdapConfig.cover_shown]
        rfl
      change Shown.record _ [(_, .record _ [_, _, _, (_, (v.cover r.origin).shown)] _)] _ = _
      rw [origin]
      rfl

theorem Referral.cover_skip (v : Veil) (r : Referral) : (v.cover r).skip = v.cover r.skip := by
  cases r with
  | scripted r =>
      change (scripted r).skip = _
      simp only [skip]
      split <;> rfl
  | ldap r =>
      change (ldap (v.cover r)).skip = _
      have next : nextIndex? (v.cover r).index (v.cover r).urls.length =
          nextIndex? r.index r.urls.length := rfl
      simp only [skip]
      rw [next]
      split <;> rfl

/-! ## Following referrals -/

instance : Unveiled ReferralTarget := .plain

theorem LdapReferral.cover_destination (v : Veil) (r : LdapReferral) :
    v.cover r.destination = r.destination := by
  unfold destination
  split
  · rfl
  · split
    · rfl
    · exact congrArg Except.ok (Unveiled.cover_eq ..)

theorem LdapReferral.connect_oblivious (r : LdapReferral) :
    Oblivious v I (r.connect : Act κ σ _) (v.cover r).connect := by
  have led : Oblivious v I (LdapDirContext.demand r.destination : Act κ σ _)
      (LdapDirContext.demand r.destination) := by
    have same := LdapDirContext.demand_oblivious (κ := κ) (σ := σ) (v := v) (I := I) r.destination
    rwa [cover_destination] at same
  refine Oblivious.bindSame led fun target => ?_
  refine Oblivious.bind (Oblivious.outcome (LdapDirContext.openAt_oblivious _ _ r.origin.config
    r.origin.credentials _ _)) fun opened => ?_
  rcases opened with (e | _) | context
  · exact (Oblivious.warn (.referralConnection _ e)).bindSame fun _ => Oblivious.fail e
  · exact Oblivious.failWith .panic
  · exact Oblivious.ret context

theorem Referral.connect_oblivious (r : Referral) :
    Oblivious v I (r.connect : Act κ σ Plain) (v.cover r).connect := by
  cases r with
  | ldap r => exact (LdapReferral.connect_oblivious r).map fun _ => rfl
  | scripted r =>
      refine Oblivious.map (f := Sum.inr) (g := Sum.inr) ?_ fun _ => rfl
      refine Oblivious.bindSame (Oblivious.record _) fun _ => ?_
      split
      · exact Oblivious.fail (.communication _ none)
      · exact Oblivious.ret _

/-! ## Factories -/

instance : Veilable ContextFactory := ⟨fun v f => { f with config := v.cover f.config }⟩

namespace ContextFactory

@[simp] theorem cover_shown (v : Veil) (f : ContextFactory) : (v.cover f).shown = f.shown := by
  change Shown.record _ [(_, (v.cover f.config).shown), _] _ = _
  rw [LdapConfig.cover_shown]
  rfl

/-- A configuration without a fault has the veiled identity under the veil. -/
theorem cover_credentials {config : LdapConfig} (faultless : config.fault? = none) :
    (v.cover config).credentials = v.cover config.credentials :=
  congrArg (Credentials.mk config.bindDn) (v.agrees config faultless)

theorem warnOf_oblivious (tls : TlsConfig) :
    Oblivious v I (tls.warnOf : Act κ σ Unit) tls.warnOf := by
  unfold TlsConfig.warnOf
  split
  · exact Oblivious.warn .insecureTls
  · exact Oblivious.retSame ()

theorem socketFactory_oblivious (tls : TlsConfig) (files : HostFiles) :
    Oblivious v I (tls.socketFactory files : Act κ σ _) (tls.socketFactory files) := by
  refine (warnOf_oblivious tls).bindSame fun _ => ?_
  split
  · exact Oblivious.retSame _
  · exact Oblivious.fail (.invalidConfiguration _)

/-- Making a factory asks whether there is a password where there should be one, which a veil
leaves as it is.  What comes of the factory need only be looked at for a configuration without
a fault. -/
theorem new_oblivious (files : HostFiles) (config : LdapConfig)
    {f g : ContextFactory → Act κ σ β}
    (next : config.fault? = none → ∀ factory,
      Oblivious v I (f ⟨config, factory⟩) (g ⟨v.cover config, factory⟩)) :
    Oblivious v I (new files config >>= f) (new files (v.cover config) >>= g) := by
  have fault : (v.cover config).fault? = config.fault? := v.fault config
  have tls : (v.cover config).tls = config.tls := rfl
  unfold new LdapConfig.validate
  rw [fault, tls]
  cases found : config.fault? with
  | some e => exact Oblivious.fail (.invalidConfiguration e.message)
  | none =>
      simp only [bind_assoc]
      refine (warnOf_oblivious config.tls).bindSame fun _ => ?_
      split
      · rw [bind_assoc, bind_assoc]
        exact (socketFactory_oblivious config.tls files).bindSame fun factory =>
          next found (some factory)
      · exact next found none

theorem obtainAs_oblivious (f : ContextFactory) (c : Credentials) (mode : ReferralMode)
    (handler : CloseHandler) :
    Oblivious v I (f.obtainAs .inl c mode handler : Act κ σ (Context Plain))
      ((v.cover f).obtainAs .inl (v.cover c) mode (v.cover handler)) := by
  refine Oblivious.bind
    (Oblivious.under f.socketFactory (LdapDirContext.connect_oblivious f.config c _))
    fun opened => ?_
  exact Oblivious.ret (Context.pooled (.plain (Sum.inl opened)) handler f.socketFactory)

theorem initialContext_oblivious {f : ContextFactory} (faultless : f.config.fault? = none) :
    Oblivious v I (f.initialContext : Act κ σ _) (v.cover f).initialContext := by
  have opened := LdapDirContext.connect_oblivious (κ := κ) (σ := σ) (v := v) (I := I) f.config
    f.config.credentials f.config.referral.environment
  rwa [← cover_credentials faultless] at opened

end ContextFactory

namespace Session

/-! ## What a session is told, keeps and reports -/

instance : Unveiled Item := .plain

instance : Veilable InitialSource where
  cover v
    | .scripted failure => .scripted (v.cover failure)
    | source => source

instance : Veilable Wrapped where
  cover v
    | .scripted context => .scripted (v.cover context)
    | wrapped => wrapped

instance : Veilable Action where
  cover v
    | .script context into => .script (v.cover context) into
    | .wrap inner factory handler into => .wrap (v.cover inner) factory (v.cover handler) into
    | .makeFactory config factory into => .makeFactory (v.cover config) factory into
    | .obtain factory mode credentials handler into =>
        .obtain factory mode (v.cover credentials) (v.cover handler) into
    | .connect config credentials env into =>
        .connect (v.cover config) (v.cover credentials) env into
    | .initial facade source into => .initial facade (v.cover source) into
    | action => action

/-- A script with other passwords in its steps. -/
def Script.cover (v : Veil) : Script → Script
  | .done => .done
  | .act action keepReferral rest => .act (v.cover action) keepReferral (rest.cover v)
  | .thread body rest => .thread (body.cover v) (rest.cover v)

instance : Veilable Script := ⟨Script.cover⟩

instance : Veilable Outcome where
  cover v
    | .failed failure => .failed (v.cover failure)
    | .items items failure => .items items (v.cover failure)
    | outcome => outcome

instance : Veilable Traces := ⟨fun v t => { t with warnings := v.cover t.warnings }⟩

mutual

/-- A report with other passwords in its errors. -/
def Report.cover (v : Veil) : Report → Report
  | .step outcome traces slot => .step (v.cover outcome) (v.cover traces) slot
  | .thread reports slot => .thread (Report.coverAll v reports) slot

def Report.coverAll (v : Veil) : List Report → List Report
  | [] => []
  | report :: rest => report.cover v :: Report.coverAll v rest

end

instance : Veilable Report := ⟨Report.cover⟩

theorem Report.coverAll_eq (v : Veil) (reports : List Report) :
    Report.coverAll v reports = v.cover reports := by
  induction reports with
  | nil => rw [coverAll]; rfl
  | cons report rest ih => rw [coverAll, ih]; rfl

instance : Veilable Transcript where
  cover v t :=
    { reports := v.cover t.reports, ending := v.cover t.ending, links := v.cover t.links }

instance : Veilable Held := ⟨fun v h => { h with context := v.cover h.context }⟩

theorem Held.cover_context (v : Veil) (held : Held) :
    (v.cover held).context = v.cover held.context := rfl

theorem Held.cover_asFacade (v : Veil) (held : Held) :
    (v.cover held).asFacade = held.asFacade := rfl

instance : Veilable HeldCursor where
  cover v
    | .entries c => .entries (v.cover c)
    | .children c => .children (v.cover c)

instance : Veilable Tables where
  cover v t :=
    { contexts := v.cover t.contexts
      cursors := v.cover t.cursors
      referrals := v.cover t.referrals
      factories := v.cover t.factories }

/-! ## Cursors -/

namespace HeldCursor

theorem hasMore_oblivious : Oblivious v Any (hasMore : Act κ HeldCursor Bool) hasMore := by
  rintro c w -
  refine ⟨trivial, ?_⟩
  cases c with
  | entries c => exact cover_wrapped entries (fun _ => rfl) Cursor.hasMore_oblivious c w
  | children c => exact cover_wrapped children (fun _ => rfl) Cursor.hasMore_oblivious c w

theorem next_oblivious : Oblivious v Any (next : Act κ HeldCursor (Option Item)) next := by
  rintro c w -
  refine ⟨trivial, ?_⟩
  cases c with
  | entries c =>
      exact cover_wrapped entries (fun _ => rfl)
        (Cursor.next_oblivious.mapSame fun _ => Unveiled.cover_eq ..) c w
  | children c =>
      exact cover_wrapped children (fun _ => rfl)
        (Cursor.next_oblivious.mapSame fun _ => Unveiled.cover_eq ..) c w

theorem cover_collected {δ : Type} [Unveiled δ] (f : δ → Item) (r : List δ × Option Failure) :
    ((v.cover r).1.map f, (v.cover r).2) = v.cover (r.1.map f, r.2) := by
  refine Prod.ext ?_ rfl
  change (v.cover r.1).map f = v.cover (r.1.map f)
  rw [Unveiled.cover_eq, Unveiled.cover_eq]

theorem collect_oblivious :
    Oblivious v Any (collect : Act κ HeldCursor (List Item × Option Failure)) collect := by
  rintro c w -
  refine ⟨trivial, ?_⟩
  cases c with
  | entries c =>
      exact cover_wrapped entries (fun _ => rfl)
        (Cursor.collect_oblivious.map (cover_collected .entry)) c w
  | children c =>
      exact cover_wrapped children (fun _ => rfl)
        (Cursor.collect_oblivious.map (cover_collected .child)) c w

theorem close_oblivious : Oblivious v Any (close : Act κ HeldCursor Unit) close := by
  rintro c w -
  refine ⟨trivial, ?_⟩
  cases c with
  | entries c => exact cover_wrapped entries (fun _ => rfl) Cursor.close_oblivious c w
  | children c => exact cover_wrapped children (fun _ => rfl) Cursor.close_oblivious c w

theorem cover_discard (c : HeldCursor) (w : World κ) :
    (v.cover c).discard (v.cover w) = v.cover (c.discard w) := by
  cases c with
  | entries c => exact Cursor.cover_discard c w
  | children c => exact Cursor.cover_discard c w

end HeldCursor

/-! ## What is kept -/

namespace Tables

/-- Every factory that is kept has a configuration without a fault. -/
def Valid (t : Tables) : Prop :=
  ∀ name f, t.factories.get? name = some f → f.config.fault? = none

theorem cover_contexts (v : Veil) (t : Tables) (name : String) :
    (v.cover t).contexts.get? name = v.cover (t.contexts.get? name) :=
  OrderedMap.get?_mapValues v.cover t.contexts name

theorem cover_cursors (v : Veil) (t : Tables) (name : String) :
    (v.cover t).cursors.get? name = v.cover (t.cursors.get? name) :=
  OrderedMap.get?_mapValues v.cover t.cursors name

theorem cover_referrals (v : Veil) (t : Tables) (name : String) :
    (v.cover t).referrals.get? name = v.cover (t.referrals.get? name) :=
  OrderedMap.get?_mapValues v.cover t.referrals name

theorem cover_factories (v : Veil) (t : Tables) (name : String) :
    (v.cover t).factories.get? name = v.cover (t.factories.get? name) :=
  OrderedMap.get?_mapValues v.cover t.factories name

theorem cover_insertContext (v : Veil) (t : Tables) (name : String) (held : Held) :
    { v.cover t with contexts := (v.cover t).contexts.insert name (v.cover held) } =
      v.cover { t with contexts := t.contexts.insert name held } :=
  congrArg (fun contexts => { v.cover t with contexts := contexts })
    (OrderedMap.mapValues_insert v.cover t.contexts name held).symm

theorem cover_insertCursor (v : Veil) (t : Tables) (name : String) (cursor : HeldCursor) :
    { v.cover t with cursors := (v.cover t).cursors.insert name (v.cover cursor) } =
      v.cover { t with cursors := t.cursors.insert name cursor } :=
  congrArg (fun cursors => { v.cover t with cursors := cursors })
    (OrderedMap.mapValues_insert v.cover t.cursors name cursor).symm

theorem cover_eraseCursor (v : Veil) (t : Tables) (name : String) :
    { v.cover t with cursors := (v.cover t).cursors.erase name } =
      v.cover { t with cursors := t.cursors.erase name } :=
  congrArg (fun cursors => { v.cover t with cursors := cursors })
    (OrderedMap.mapValues_erase v.cover t.cursors name).symm

end Tables

open Tables

namespace Work

/-! ### Keeping -/

/-- A change of what is kept that leaves the factories alone. -/
theorem change_oblivious {f g : Tables → Tables} (same : ∀ t, g (v.cover t) = v.cover (f t))
    (factories : ∀ t, (f t).factories = t.factories) :
    Oblivious v Valid (Act.update f : Work Unit) (Act.update g) :=
  Oblivious.update (fun t valid name => by rw [factories t]; exact valid name) same

/-- Going on after such a change. -/
theorem changing {f g : Tables → Tables} {x y : Work α}
    (same : ∀ t, g (v.cover t) = v.cover (f t)) (factories : ∀ t, (f t).factories = t.factories)
    (next : Oblivious v Valid x y) :
    Oblivious v Valid (Act.update f >>= fun _ => x) (Act.update g >>= fun _ => y) :=
  (change_oblivious same factories).bindSame fun _ => next

/-- Something done to the world alone. -/
theorem drops_oblivious {f g : World (Context Plain) → Except Failure Unit × World (Context Plain)}
    (same : ∀ w, g (v.cover w) = v.cover (f w)) :
    Oblivious v Valid (fun t w => match f w with | (r, w) => (r, t, w) : Work Unit)
      (fun t w => match g w with | (r, w) => (r, t, w)) := by
  intro t w valid
  refine ⟨valid, ?_⟩
  dsimp only
  rw [same]
  rfl

theorem dropContext_oblivious (c : Context Plain) :
    Oblivious v Valid (dropContext c) (dropContext (v.cover c)) :=
  drops_oblivious fun w => Context.cover_drop c w

theorem dropContexts_oblivious (cs : List (Context Plain)) :
    Oblivious v Valid (dropContexts cs) (dropContexts (v.cover cs)) :=
  drops_oblivious fun w => Context.cover_dropAll cs w

theorem keep_oblivious (into : String) (held : Held) :
    Oblivious v Valid (keep into held) (keep into (v.cover held)) := by
  refine Oblivious.withSelf fun t _ => ?_
  refine changing (fun t => cover_insertContext v t into held) (fun _ => rfl) ?_
  rw [cover_contexts]
  cases t.contexts.get? into with
  | none => exact Oblivious.retSame ()
  | some older => exact dropContext_oblivious older.context

theorem keepNamed_oblivious (into : String) (held : Held) :
    Oblivious v Valid (keepNamed into held) (keepNamed into (v.cover held)) := by
  unfold keepNamed
  rw [Held.cover_context, Context.cover_nameOf]
  rcases held.context.nameOf with failure | _ | name
  · exact (dropContext_oblivious held.context).bindSame fun _ => Oblivious.failWith failure
  · exact (keep_oblivious into held).bindSame fun _ => Oblivious.retSame none
  · exact (keep_oblivious into held).bindSame fun _ => Oblivious.retSame (some name)

theorem keepCursor_oblivious (into : String) (cursor : HeldCursor) :
    Oblivious v Valid (keepCursor into cursor) (keepCursor into (v.cover cursor)) := by
  refine Oblivious.withSelf fun t _ => ?_
  refine changing (fun t => cover_insertCursor v t into cursor) (fun _ => rfl) ?_
  rw [cover_cursors]
  cases t.cursors.get? into with
  | none => exact Oblivious.retSame ()
  | some older => exact Oblivious.updateWorld fun w => HeldCursor.cover_discard older w

theorem keepReferral_oblivious (into : String) (r : Referral) :
    Oblivious v Valid (keepReferral into r) (keepReferral into (v.cover r)) :=
  change_oblivious (fun t =>
    congrArg (fun referrals => { v.cover t with referrals := referrals })
      (OrderedMap.mapValues_insert v.cover t.referrals into r).symm) fun _ => rfl

/-- A factory whose configuration has no fault may be kept. -/
theorem keepFactory_oblivious (into : String) {f : ContextFactory}
    (faultless : f.config.fault? = none) :
    Oblivious v Valid (keepFactory into f) (keepFactory into (v.cover f)) := by
  refine Oblivious.update (fun t valid name g kept => ?_) fun t =>
    congrArg (fun factories => { v.cover t with factories := factories })
      (OrderedMap.mapValues_insert v.cover t.factories into f).symm
  rw [OrderedMap.get?_insert] at kept
  split at kept
  · cases kept
    exact faultless
  · exact valid name g kept

theorem deliver_oblivious (into : String) (r : Reply (Context Plain) (Cursor PlainCursor)) :
    Oblivious v Valid (deliver into r) (deliver into (v.cover r)) := by
  cases r with
  | context c => exact (keepNamed_oblivious into ⟨c, false⟩).mapSame fun _ => rfl
  | listing items =>
      have kept := keepCursor_oblivious (v := v) into (.children (.bare items))
      have same : v.cover (HeldCursor.children (.bare items)) = .children (.bare items) :=
        congrArg (fun items => HeldCursor.children (.bare items)) (Unveiled.cover_eq v items)
      rw [same] at kept
      exact kept.bindSame fun _ => Oblivious.retFixed rfl
  | entries cursor =>
      exact (keepCursor_oblivious into (.entries cursor)).bindSame fun _ => Oblivious.retFixed rfl
  | _ => exact Oblivious.retFixed rfl

/-! ### Using -/

theorem withContext_oblivious (name : String) {use use' : Held → Work Outcome}
    (next : ∀ held, Oblivious v Valid (use held) (use' (v.cover held))) :
    Oblivious v Valid (withContext name use) (withContext name use') := by
  refine Oblivious.withSelf fun t _ => ?_
  rw [cover_contexts]
  cases t.contexts.get? name with
  | none => exact Oblivious.retFixed rfl
  | some held => exact next held

theorem withReferral_oblivious (name : String) {use use' : Referral → Work Outcome}
    (next : ∀ r, Oblivious v Valid (use r) (use' (v.cover r))) :
    Oblivious v Valid (withReferral name use) (withReferral name use') := by
  refine Oblivious.withSelf fun t _ => ?_
  rw [cover_referrals]
  cases t.referrals.get? name with
  | none => exact Oblivious.retFixed rfl
  | some r => exact next r

/-- A factory that is used has a configuration without a fault. -/
theorem withFactory_oblivious (name : String) {use use' : ContextFactory → Work Outcome}
    (next : ∀ f : ContextFactory, f.config.fault? = none →
      Oblivious v Valid (use f) (use' (v.cover f))) :
    Oblivious v Valid (withFactory name use) (withFactory name use') := by
  refine Oblivious.withSelf fun t valid => ?_
  rw [cover_factories]
  cases kept : t.factories.get? name with
  | none => exact Oblivious.retFixed rfl
  | some f => exact next f (valid name f kept)

theorem withCursor_oblivious (name : String) {call call' : Act (Context Plain) HeldCursor Outcome}
    (oblivious : Oblivious v Any call call') :
    Oblivious v Valid (withCursor name call) (withCursor name call') := by
  refine Oblivious.withSelf fun t _ => ?_
  rw [cover_cursors]
  cases t.cursors.get? name with
  | none => exact Oblivious.retFixed rfl
  | some cursor =>
      refine Oblivious.bind (Oblivious.on oblivious trivial) fun called => ?_
      obtain ⟨outcome, left⟩ := called
      have kept : Oblivious v Valid
          (do Act.update fun t => { t with cursors := t.cursors.insert name left }
              Act.ofExcept outcome : Work Outcome)
          (do Act.update fun t => { t with cursors := t.cursors.insert name (v.cover left) }
              Act.ofExcept (v.cover outcome)) :=
        changing (fun t => cover_insertCursor v t name left) (fun _ => rfl)
          (Oblivious.ofExcept outcome)
      rcases outcome with (e | _) | outcome
      · exact kept
      · refine changing (fun t => cover_eraseCursor v t name) (fun _ => rfl) ?_
        exact Oblivious.bindSame (Oblivious.updateWorld fun w => HeldCursor.cover_discard left w)
          fun _ => Oblivious.failWith .panic
      · exact kept

theorem callContext_oblivious (name : String) (held : Held)
    {call call' : Context Plain → World (Context Plain) →
      Except Failure α × Context Plain × World (Context Plain)}
    (same : ∀ c w, call' (v.cover c) (v.cover w) = v.cover (call c w)) :
    Oblivious v Valid (callContext name held call) (callContext name (v.cover held) call') := by
  intro t w valid
  refine ⟨valid, ?_⟩
  unfold callContext
  rw [Held.cover_context, same]
  rcases call held.context w with ⟨r, c, w'⟩
  exact congrArg (fun t => (v.cover r, t, v.cover w'))
    (cover_insertContext v t name ⟨c, held.asFacade⟩)

theorem takeContext_oblivious (name : String) :
    Oblivious v Valid (takeContext name) (takeContext name) :=
  change_oblivious (fun t =>
    congrArg (fun contexts => { v.cover t with contexts := contexts })
      (OrderedMap.mapValues_erase v.cover t.contexts name).symm) fun _ => rfl

theorem onThread_oblivious {x y : Work α} (oblivious : Oblivious v Valid x y) :
    Oblivious v Valid (onThread x) (onThread y) := by
  intro t w valid
  obtain ⟨valid', same⟩ := oblivious t { w with slot := none } valid
  have inside : y (v.cover t) { v.cover w with slot := none } =
      v.cover (x t { w with slot := none }) := same
  refine ⟨valid', ?_⟩
  unfold onThread
  rw [inside]
  rfl

end Work

/-! ## Steps -/

open Work

theorem InitialSource.use_oblivious (source : InitialSource)
    {run run' : Work (Context Plain) → Work Outcome}
    (next : ∀ x y, Oblivious v Valid x y → Oblivious v Valid (run x) (run' y)) :
    Oblivious v Valid (source.use run) ((v.cover source).use run') := by
  cases source with
  | factory name =>
      refine withFactory_oblivious name fun f faultless => next _ _ ?_
      exact (ContextFactory.initialContext_oblivious faultless).map fun _ => rfl
  | scripted failure =>
      refine next _ _ (Oblivious.bindSame (Oblivious.record _) fun _ => ?_)
      cases failure with
      | none => exact Oblivious.retFixed rfl
      | some f => exact Oblivious.failWith f

theorem lending_oblivious (facade : Option String)
    {run run' : (Work (Context Plain) → Work (Context Plain)) → Work Outcome}
    (next : ∀ lend lend' : Work (Context Plain) → Work (Context Plain),
      (∀ x y, Oblivious v Valid x y → Oblivious v Valid (lend x) (lend' y)) →
        Oblivious v Valid (run lend) (run' lend')) :
    Oblivious v Valid (lending facade run) (lending facade run') := by
  cases facade with
  | none => exact next id id fun _ _ oblivious => oblivious
  | some name =>
      refine withContext_oblivious name fun held => ?_
      rw [Held.cover_asFacade]
      split
      · exact next _ _ fun _ _ oblivious => Context.openFor_oblivious held.context oblivious
      · exact next id id fun _ _ oblivious => oblivious

theorem Wrapped.use_oblivious (inner : Wrapped) {run run' : Context Plain → Work Outcome}
    (next : ∀ c, Oblivious v Valid (run c) (run' (v.cover c))) :
    Oblivious v Valid (inner.use run) ((v.cover inner).use run') := by
  cases inner with
  | scripted context => exact next (.plain (.inr context))
  | kept name =>
      exact withContext_oblivious name fun held =>
        (takeContext_oblivious name).bindSame fun _ => next held.context

/-- The names in a pool. -/
theorem names_oblivious (cs : List (Context Plain)) :
    Oblivious v Valid (cs.mapM fun c => Act.ofExcept c.nameOf : Work (List (Option String)))
      ((v.cover cs).mapM fun c => Act.ofExcept c.nameOf) := by
  induction cs with
  | nil => exact Oblivious.retSame []
  | cons c rest ih =>
      change Oblivious v Valid _
        ((v.cover c :: v.cover rest).mapM fun c => Act.ofExcept c.nameOf)
      rw [List.mapM_cons, List.mapM_cons, Context.cover_nameOf]
      exact Oblivious.bindSame (Oblivious.ofExcept c.nameOf) fun _ =>
        ih.bindSame fun _ => Oblivious.retSame _

/-- A context is kept, and its name told. -/
theorem contextNamed_oblivious (into : String) (held : Held) :
    Oblivious v Valid (.context <$> keepNamed into held : Work Outcome)
      (.context <$> keepNamed into (v.cover held)) :=
  (keepNamed_oblivious into held).mapSame fun _ => rfl

/-- A context is kept, and nothing told. -/
theorem keptAway_oblivious (into : String) (held : Held) :
    Oblivious v Valid (do keep into held; return .done : Work Outcome)
      (do keep into (v.cover held); return .done) :=
  (keep_oblivious into held).bindSame fun _ => Oblivious.retFixed rfl

theorem Action.run_oblivious (files : HostFiles) (action : Action) :
    Oblivious v Valid (action.run files) ((v.cover action).run files) := by
  cases action with
  | malformed => exact Oblivious.retFixed rfl
  | script context into => exact contextNamed_oblivious into ⟨.plain (.inr context), false⟩
  | wrap inner factory handler into =>
      cases handler with
      | none =>
          change Oblivious v Valid
            (inner.use fun c => do keep into ⟨.derived c factory, true⟩; return .done)
            ((v.cover inner).use fun c => do keep into ⟨.derived c factory, true⟩; return .done)
          exact Wrapped.use_oblivious inner fun c =>
            keptAway_oblivious into ⟨.derived c factory, true⟩
      | some handler =>
          change Oblivious v Valid
            (inner.use fun c => do keep into ⟨.pooled c handler factory, true⟩; return .done)
            ((v.cover inner).use fun c => do
              keep into ⟨.pooled c (v.cover handler) factory, true⟩; return .done)
          exact Wrapped.use_oblivious inner fun c =>
            keptAway_oblivious into ⟨.pooled c handler factory, true⟩
  | makeFactory config factory into =>
      refine ContextFactory.new_oblivious files config fun faultless made => ?_
      cases factory with
      | none =>
          have kept := keepFactory_oblivious (v := v) into (f := ⟨config, made⟩) faultless
          exact kept.bindSame fun _ => Oblivious.retFixed rfl
      | some factory =>
          have kept := keepFactory_oblivious (v := v) into (f := ⟨config, some factory⟩) faultless
          exact kept.bindSame fun _ => Oblivious.retFixed rfl
  | showFactory name =>
      refine withFactory_oblivious name fun f _ => ?_
      rw [ContextFactory.cover_shown]
      exact Oblivious.retFixed rfl
  | obtain name mode credentials handler into =>
      refine withFactory_oblivious name fun f faultless => ?_
      have obtained : ∀ c handler, Oblivious v Valid
          (do let c ← f.obtainAs .inl c mode handler; .context <$> keepNamed into ⟨c, true⟩ :
            Work Outcome)
          (do let c ← (v.cover f).obtainAs .inl (v.cover c) mode (v.cover handler)
              .context <$> keepNamed into ⟨c, true⟩) := fun c handler =>
        Oblivious.bind (ContextFactory.obtainAs_oblivious f c mode handler) fun c =>
          contextNamed_oblivious into ⟨c, true⟩
      have configured := obtained f.config.credentials
      rw [← ContextFactory.cover_credentials faultless] at configured
      rcases credentials with _ | credentials
      · rcases handler with _ | handler
        · exact configured .closing
        · exact configured handler
      · exact obtained credentials .closing
  | connect config credentials env into =>
      refine Oblivious.bind (LdapDirContext.connect_oblivious config credentials env) fun c => ?_
      exact Oblivious.bindSame (keepNamed_oblivious into ⟨.plain (.inl c), false⟩) fun _ =>
        Oblivious.retFixed rfl
  | initial facade source into =>
      exact lending_oblivious facade fun lend lend' lends =>
        InitialSource.use_oblivious source fun x y oblivious =>
          (lends x y oblivious).bind fun c => contextNamed_oblivious into ⟨c, false⟩
  | pool => exact Oblivious.withWorld fun w => (names_oblivious w.pool).mapSame fun _ => rfl
  | takePooled into =>
      refine Oblivious.withWorld fun w => ?_
      have pooled : (v.cover w).pool = v.cover w.pool := rfl
      rw [pooled]
      cases w.pool with
      | nil => exact Oblivious.retFixed rfl
      | cons c rest =>
          exact Oblivious.bindSame (Oblivious.updateWorld fun _ => rfl) fun _ =>
            contextNamed_oblivious into ⟨c, false⟩
  | refer referral into =>
      exact (keepReferral_oblivious into (.scripted referral)).bindSame fun _ =>
        Oblivious.retFixed rfl
  | tellReferral name =>
      refine withReferral_oblivious name fun r => ?_
      cases r <;> exact Oblivious.retFixed rfl
  | showReferral name =>
      refine withReferral_oblivious name fun r => ?_
      rw [Referral.cover_shown]
      exact Oblivious.retFixed rfl
  | skipReferral name =>
      refine withReferral_oblivious name fun r => ?_
      rw [Referral.cover_skip]
      exact (keepReferral_oblivious name r.skip.2).bindSame fun _ => Oblivious.retFixed rfl
  | openReferral name into =>
      exact withReferral_oblivious name fun r => (Referral.connect_oblivious r).bind fun c =>
        contextNamed_oblivious into ⟨.plain c, false⟩
  | raiseReferral name =>
      refine withReferral_oblivious name fun r => ?_
      refine changing (fun t =>
        congrArg (fun referrals => { v.cover t with referrals := referrals })
          (OrderedMap.mapValues_erase v.cover t.referrals name).symm) (fun _ => rfl) ?_
      exact Oblivious.fail (.referral r)
  | follow facade referral into =>
      refine withContext_oblivious facade fun held => ?_
      rw [Held.cover_asFacade]
      split
      · refine withReferral_oblivious referral fun r => ?_
        have connected : Oblivious v Valid (.plain <$> r.connect : Work (Context Plain))
            (.plain <$> (v.cover r).connect) :=
          (Referral.connect_oblivious r).map fun _ => rfl
        exact (Context.follow_oblivious held.context connected).bind fun c =>
          contextNamed_oblivious into ⟨c, true⟩
      · exact Oblivious.retFixed rfl
  | installFactory factory =>
      exact Oblivious.bindSame (Oblivious.updateWorld fun _ => rfl) fun _ => Oblivious.retFixed rfl
  | clearFactory =>
      exact Oblivious.bindSame (Oblivious.updateWorld fun _ => rfl) fun _ => Oblivious.retFixed rfl
  | drop name =>
      refine withContext_oblivious name fun held => ?_
      refine (takeContext_oblivious name).bindSame fun _ => ?_
      exact (dropContext_oblivious held.context).bindSame fun _ => Oblivious.retFixed rfl
  | inspect name =>
      refine withContext_oblivious name fun held => ?_
      dsimp only
      rw [Held.cover_asFacade, Held.cover_context, Context.cover_hasCloseHandler,
        Context.cover_isClosed, Context.cover_factory?, Context.cover_offersLdap]
      split <;> exact Oblivious.retFixed rfl
  | showContext name =>
      refine withContext_oblivious name fun held => ?_
      rw [Held.cover_context, Context.cover_shown]
      exact Oblivious.retFixed rfl
  | ask name query =>
      refine withContext_oblivious name fun held => ?_
      rw [Held.cover_context, Context.cover_offersLdap, Context.cover_ask]
      split
      · exact Oblivious.retFixed rfl
      · exact (Oblivious.ofExcept _).mapSame fun _ => rfl
  | perform name op into =>
      refine withContext_oblivious name fun held => ?_
      rw [Held.cover_context, Context.cover_offersLdap]
      split
      · exact Oblivious.retFixed rfl
      · exact Oblivious.bind
          (callContext_oblivious name held fun c w => Context.cover_perform c op w)
          fun reply => deliver_oblivious into reply
  | close name =>
      refine withContext_oblivious name fun held => ?_
      exact (callContext_oblivious name held Context.cover_close).bindSame fun _ =>
        Oblivious.retFixed rfl
  | hasMore name =>
      exact withCursor_oblivious name (HeldCursor.hasMore_oblivious.mapSame fun _ => rfl)
  | next name =>
      exact withCursor_oblivious name (HeldCursor.next_oblivious.mapSame fun _ => rfl)
  | collect name =>
      refine withCursor_oblivious name (HeldCursor.collect_oblivious.bind fun found => ?_)
      obtain ⟨items, failure⟩ := found
      have told : Oblivious v Any
          (pure (Outcome.items items failure) : Act (Context Plain) HeldCursor Outcome)
          (pure (Outcome.items (v.cover items) (v.cover failure))) := by
        rw [Unveiled.cover_eq v items]
        exact Oblivious.ret (Outcome.items items failure)
      rcases failure with _ | (e | _)
      · exact told
      · exact told
      · exact Oblivious.failWith .panic
  | closeCursor name =>
      exact withCursor_oblivious name (HeldCursor.close_oblivious.bindSame fun _ =>
        Oblivious.retFixed rfl)
  | dropCursor name =>
      refine Oblivious.withSelf fun t _ => ?_
      rw [cover_cursors]
      cases t.cursors.get? name with
      | none => exact Oblivious.retFixed rfl
      | some cursor =>
          refine changing (fun t => cover_eraseCursor v t name) (fun _ => rfl) ?_
          exact Oblivious.bindSame
            (Oblivious.updateWorld fun w => HeldCursor.cover_discard cursor w)
            fun _ => Oblivious.retFixed rfl

/-! ## Reports -/

theorem Traces.cover_between (before after : World κ) :
    Traces.between (v.cover before) (v.cover after) = v.cover (Traces.between before after) := by
  have count : (v.cover before).warnings.length = before.warnings.length := List.length_map ..
  unfold Traces.between
  rw [count]
  exact congrArg (Traces.mk _) (cover_drop before.warnings.length after.warnings)

theorem Outcome.cover_referral? (v : Veil) (outcome : Outcome) :
    (v.cover outcome).referral? = v.cover outcome.referral? := by
  cases outcome with
  | failed failure =>
      rcases failure with e | _
      · cases e <;> rfl
      · rfl
  | items items failure =>
      rcases failure with _ | (e | _)
      · rfl
      · cases e <;> rfl
      · rfl
  | _ => rfl

/-- What is left to do once a step was carried out: the referral it brought is kept where the
script asks for it, and the step is reported. -/
theorem report_outcome_oblivious (before : World (Context Plain)) (outcome : Outcome)
    (referralInto : Option String) : Oblivious v Valid
    (match referralInto, outcome.referral? with
      | some into, some referral => do
          keepReferral into referral
          let after ← Act.world
          return .step outcome (.between before after) after.slot
      | _, _ => do
          let after ← Act.world
          return .step outcome (.between before after) after.slot : Work Report)
    (match referralInto, (v.cover outcome).referral? with
      | some into, some referral => do
          keepReferral into referral
          let after ← Act.world
          return .step (v.cover outcome) (.between (v.cover before) after) after.slot
      | _, _ => do
          let after ← Act.world
          return .step (v.cover outcome) (.between (v.cover before) after) after.slot) := by
  have reported : Oblivious v Valid
      (do let after ← Act.world
          return .step outcome (.between before after) after.slot : Work Report)
      (do let after ← Act.world
          return .step (v.cover outcome) (.between (v.cover before) after) after.slot) :=
    Oblivious.withWorld fun after => by
      rw [Traces.cover_between]
      exact Oblivious.ret (Report.step outcome (.between before after) after.slot)
  rw [Outcome.cover_referral?]
  rcases referralInto with _ | into
  · exact reported
  · rcases outcome.referral? with _ | referral
    · exact reported
    · exact (keepReferral_oblivious into referral).bindSame fun _ => reported

theorem Action.report_oblivious (files : HostFiles) (action : Action)
    (referralInto : Option String) :
    Oblivious v Valid (action.report files referralInto)
      ((v.cover action).report files referralInto) := by
  refine Oblivious.withWorld fun before => ?_
  refine Oblivious.bind (Oblivious.outcome (action.run_oblivious files)) fun carried => ?_
  -- a failure is an outcome, too, and keeps its referral like one
  rcases carried with failure | outcome
  · exact report_outcome_oblivious before (.failed failure) referralInto
  · exact report_outcome_oblivious before outcome referralInto

/-! ## Runs -/

theorem Script.run_oblivious (files : HostFiles) (script : Script) :
    Oblivious v Valid (script.run files) ((v.cover script).run files) := by
  induction script with
  | done => exact Oblivious.ret []
  | act action referralInto rest ih =>
      exact Oblivious.bind (action.report_oblivious files referralInto) fun report =>
        Oblivious.bind ih fun reports => Oblivious.ret (report :: reports)
  | thread body rest ihBody ihRest =>
      refine Oblivious.bind (onThread_oblivious ihBody) fun inner => ?_
      refine Oblivious.withWorld fun w => Oblivious.bind ihRest fun reports => ?_
      have told := Oblivious.ret (v := v) (I := Valid) (κ := Context Plain)
        (Report.thread inner w.slot :: reports)
      have same : v.cover (Report.thread inner w.slot) = .thread (v.cover inner) w.slot :=
        congrArg (Report.thread · w.slot) (Report.coverAll_eq v inner)
      change Oblivious v Valid _
        (pure (v.cover (Report.thread inner w.slot) :: v.cover reports)) at told
      rwa [same] at told

/-- A discarded cursor leaves the same under a veil; so do all of them. -/
theorem cover_discards (cursors : List (String × HeldCursor)) (w : World κ) :
    (v.cover cursors).foldl (fun w e => e.2.discard w) (v.cover w) =
      v.cover (cursors.foldl (fun w e => e.2.discard w) w) := by
  induction cursors generalizing w with
  | nil => rfl
  | cons e rest ih =>
      change (v.cover rest).foldl _ ((v.cover e.2).discard (v.cover w)) = _
      rw [HeldCursor.cover_discard, ih]
      rfl

theorem finish_oblivious : Oblivious v Valid finish finish := by
  refine Oblivious.withSelf fun t _ => ?_
  refine Oblivious.bindSame (Oblivious.update (fun _ _ name f kept => ?_) fun _ => rfl) fun _ => ?_
  · cases kept
  refine Oblivious.bindSame (Oblivious.updateWorld fun _ => rfl) fun _ => ?_
  refine Oblivious.bindSame
    (Oblivious.updateWorld fun w => cover_discards t.cursors.entries w) fun _ => ?_
  have held : (v.cover t).contexts.entries.map (fun e => e.2.context) =
      v.cover (t.contexts.entries.map fun e => e.2.context) := by
    change (t.contexts.entries.map fun e => (e.1, v.cover e.2)).map _ = List.map v.cover _
    rw [List.map_map, List.map_map]
    rfl
  rw [held]
  refine (dropContexts_oblivious _).bindSame fun _ => Oblivious.withWorld fun w => ?_
  exact Oblivious.bindSame (Oblivious.updateWorld fun _ => rfl) fun _ =>
    dropContexts_oblivious w.pool

/-- Nothing has been sent when a session begins. -/
theorem cover_ofHost {host : Network.Host} {listeners : List Listener} {n : Network}
    (runs : Network.ofHost host listeners = some n) : v.cover n = n := by
  cases host with
  | loopback =>
      cases runs
      rfl
  | isolated =>
      cases listeners with
      | nil =>
          cases runs
          rfl
      | cons l rest => cases runs

/-- A veil over what a session is told is that veil over all it reports. -/
theorem run_cover (host : Network.Host) (files : HostFiles) (listeners : List Listener)
    (script : Script) :
    run host files listeners (v.cover script) = v.cover (run host files listeners script) := by
  unfold run
  cases runs : Network.ofHost host listeners with
  | none => rfl
  | some network =>
      let n : Network := { network with socketFault := files.socketFault }
      have start : v.cover ({ network := n } : World (Context Plain)) = { network := n } :=
        congrArg (fun network : Network => ({ network := { network with
          socketFault := files.socketFault } } : World (Context Plain))) (cover_ofHost runs)
      have nothing : Valid {} := fun _ _ kept => by cases kept
      obtain ⟨valid, ran⟩ := script.run_oblivious (v := v) files {} { network := n } nothing
      have empty : v.cover ({} : Tables) = {} := rfl
      rw [start, empty] at ran
      simp only [Option.bind_eq_bind, Option.bind_some]
      rw [ran]
      generalize script.run files {} { network := n } = z at valid
      obtain ⟨failure | reports, t, w⟩ := z
      · rfl
      · have carried : v.cover ((.ok reports, t, w) : Except Failure _ × _ × _) =
            (.ok (v.cover reports), v.cover t, v.cover w) := rfl
        have finished : finish (v.cover t) (v.cover w) = v.cover (finish t w) :=
          (finish_oblivious t w valid).2
        rw [carried]
        dsimp only
        rw [finished]
        rcases finish t w with ⟨failure | _, t', after⟩
        · rfl
        · exact congrArg (fun ending => some (Transcript.mk (v.cover reports) ending _))
            (Traces.cover_between w after)

end Session

/-- A host without files. -/
def HostFiles.absent : HostFiles where
  read _ := .error PathFault.absent.message
  socketFault _ := PathFault.absent.message
  certificateFault _ := none
  identityFault _ _ := none

end ManagedLdap
