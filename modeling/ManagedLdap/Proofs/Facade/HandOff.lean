/-
# ManagedLdap.Proofs.Facade.HandOff -- the socket factory reaches every connection

A `ContextFactory` has a socket factory, or none, and every connection that is opened through it
or through the facades that come from it is to be configured by exactly that.  The way there is
long: into the slot for the time of a call, out of it where the connection is opened, and along
with every facade that is derived from another one.

A `Roster` holds the contexts and cursors that came from one factory, and a slot for every
thread; errands are run on it by any thread, in any order and whatever the servers answer.  Two
facts are kept by each errand (`step_steady`): the slots are empty, and every facade carries the
factory's own socket factory.  `step_dials` says what an errand then comes to: an attempt to
connect where one is due, configured by that socket factory, and none anywhere else.
`factory_hand_off` is the same for whole runs.
-/
import ManagedLdap.ContextFactory
import ManagedLdap.Proofs.Ldap.Dials

namespace ManagedLdap

set_option autoImplicit false

open Act (Undialled DialsOnce)

/-! ## What can be done -/

/-- What can be done with a context. -/
inductive Usage where
  | perform (op : Op)
  | follow (referral : LdapReferral)
  /-- Open a context with the identity of a configuration. -/
  | initial (config : LdapConfig)
  | close
  | drop

/-- What can be done with a cursor. -/
inductive Reading where
  | hasMore
  | next
  | close
  | drop

/-- What can be done with a factory and what comes from it. -/
inductive Errand where
  | obtain (mode : ReferralMode)
  | obtainWithCloseHandler (mode : ReferralMode) (handler : CloseHandler)
  | obtainWithCredentials (credentials : Credentials) (mode : ReferralMode)
  | use (i : Nat) (usage : Usage)
  | read (j : Nat) (reading : Reading)

/-- What comes of a usage. -/
structure Yield where
  /-- What becomes of the context: nothing when it was dropped. -/
  left : Option (Context LdapDirContext)
  contexts : List (Context LdapDirContext) := []
  cursors : List (Cursor SearchCursor) := []
  world : World (Context LdapDirContext)

namespace Usage

/-- The contexts and cursors of a reply. -/
def handedOut : Except Failure (Reply (Context LdapDirContext) (Cursor SearchCursor)) →
    List (Context LdapDirContext) × List (Cursor SearchCursor)
  | .ok (.context c) => ([c], [])
  | .ok (.entries cursor) => ([], [cursor])
  | _ => ([], [])

/-- Use a context.  Only a facade follows referrals and opens initial contexts. -/
def run (c : Context LdapDirContext) (w : World (Context LdapDirContext)) : Usage → Yield
  | .perform op =>
      match c.perform op w with
      | (r, c, w) => ⟨some c, (handedOut r).1, (handedOut r).2, w⟩
  | .follow referral =>
      if c.isManaged then
        match c.follow (Context.plain <$> referral.connect) () w with
        | (r, _, w) => ⟨some c, r.toOption.toList, [], w⟩
      else ⟨some c, [], [], w⟩
  | .initial config =>
      if c.isManaged then
        match c.openFor (Context.plain <$> config.initialContext) () w with
        | (r, _, w) => ⟨some c, r.toOption.toList, [], w⟩
      else ⟨some c, [], [], w⟩
  | .close =>
      match c.close w with
      | (_, c, w) => ⟨some c, [], [], w⟩
  | .drop =>
      match c.drop w with
      | (_, w) => ⟨none, [], [], w⟩

/-- What has to configure the connections that a usage tries to open, in order.  An open facade
of the factory tries to open one for a reconnect, for an initial context, and for a referral
that leads somewhere, and `F` has to configure it.  A bare context that is reconnected has
nobody to hand it a factory. -/
def due (F : Option SocketFactory) (c : Context LdapDirContext) : Usage → List (Option SocketFactory)
  | .perform op =>
      match c with
      | .managed .. => if op.opensConnection then [F] else []
      | .plain _ => if op.opensConnection then [none] else []
      | .closed _ => []
  | .follow referral =>
      match c with
      | .managed .. => if referral.destination.isOk then [F] else []
      | _ => []
  | .initial _ =>
      match c with
      | .managed .. => [F]
      | _ => []
  | _ => []

end Usage

namespace Reading

/-- Use a cursor: what is left of it. -/
def run (cursor : Cursor SearchCursor) (w : World (Context LdapDirContext)) :
    Reading → Option (Cursor SearchCursor) × World (Context LdapDirContext)
  | .hasMore =>
      match cursor.hasMore w with
      | (_, cursor, w) => (some cursor, w)
  | .next =>
      match cursor.next w with
      | (_, cursor, w) => (some cursor, w)
  | .close =>
      match cursor.close w with
      | (_, cursor, w) => (some cursor, w)
  | .drop => (none, cursor.discard w)

end Reading

/-! ## Rosters -/

/-- Contexts and cursors that come from one factory, in the order they were made; none where
one was dropped.  Every thread has a slot of its own. -/
structure Roster where
  contexts : List (Option (Context LdapDirContext))
  cursors : List (Option (Cursor SearchCursor))
  slots : Nat → Slot
  world : World (Context LdapDirContext)

namespace Roster

/-- Nobody there, and no slot filled. -/
def start (w : World (Context LdapDirContext)) : Roster := ⟨[], [], fun _ => none, w⟩

/-- The world as a thread sees it. -/
def seenBy (r : Roster) (thread : Nat) : World (Context LdapDirContext) :=
  { r.world with slot := r.slots thread }

/-- The world as a thread left it. -/
def leftBy (r : Roster) (thread : Nat) (w : World (Context LdapDirContext)) : Roster :=
  { r with slots := fun t => if t = thread then w.slot else r.slots t, world := w }

/-- A context that was obtained joins the others. -/
def welcome (r : Roster) (thread : Nat)
    (x : Except Failure (Context LdapDirContext) × Unit × World (Context LdapDirContext)) :
    Roster :=
  { r.leftBy thread x.2.2 with contexts := r.contexts ++ x.1.toOption.toList.map some }

/-- Run an errand. -/
def step (f : ContextFactory) (r : Roster) (thread : Nat) : Errand → Roster
  | .obtain mode => r.welcome thread (f.obtain id mode () (r.seenBy thread))
  | .obtainWithCloseHandler mode handler =>
      r.welcome thread (f.obtainWithCloseHandler id mode handler () (r.seenBy thread))
  | .obtainWithCredentials credentials mode =>
      r.welcome thread (f.obtainWithCredentials id credentials mode () (r.seenBy thread))
  | .use i usage =>
      match r.contexts[i]? with
      | some (some c) =>
          let y := usage.run c (r.seenBy thread)
          { r.leftBy thread y.world with
            contexts := r.contexts.set i y.left ++ y.contexts.map some
            cursors := r.cursors ++ y.cursors.map some }
      | _ => r
  | .read j reading =>
      match r.cursors[j]? with
      | some (some cursor) =>
          let y := reading.run cursor (r.seenBy thread)
          { r.leftBy thread y.2 with cursors := r.cursors.set j y.1 }
      | _ => r

/-- Run errands in order, each on its thread. -/
def run (f : ContextFactory) (r : Roster) (errands : List (Nat × Errand)) : Roster :=
  errands.foldl (fun r e => r.step f e.1 e.2) r

/-- What has to configure the connections that an errand tries to open. -/
def due (f : ContextFactory) (r : Roster) : Errand → List (Option SocketFactory)
  | .obtain _ => [f.socketFactory]
  | .obtainWithCloseHandler _ _ => [f.socketFactory]
  | .obtainWithCredentials _ _ => [f.socketFactory]
  | .use i usage =>
      match r.contexts[i]? with
      | some (some c) => usage.due f.socketFactory c
      | _ => []
  | .read _ _ => []

end Roster

/-! ## Scopes -/

/-- What runs in a scope that begins with an empty slot takes the factory of the scope where it
would take what is in the slot, and the scope ends with an empty slot. -/
theorem World.scope_dials {κ : Type} {w : World κ} (empty : w.slot = none)
    (xs : Slot → List (Option SocketFactory)) {run : World κ → World κ}
    (dials : ∀ w, World.Dialled (xs w.slot) w (run w)) (F : Option SocketFactory) :
    let v := run { w with slot := F.or w.slot }
    World.Dialled (xs F) w { v with slot := if F.isSome then none else v.slot } := by
  intro v
  have inside : World.Dialled (xs (F.or w.slot)) { w with slot := F.or w.slot } v :=
    dials { w with slot := F.or w.slot }
  have taken : F.or w.slot = F := by rw [empty, Option.or_none]
  rw [taken] at inside
  refine ⟨?_, inside.configured, inside.dials, inside.links⟩
  cases F with
  | none => exact inside.slot.trans empty.symm
  | some f => exact empty.symm

/-- A call under a factory takes it where it would take what is in the slot. -/
theorem Act.under_dials {κ σ α : Type} {x : Act κ σ α} {s : σ}
    (xs : Slot → List (Option SocketFactory))
    (dials : ∀ w, World.Dialled (xs w.slot) w (x s w).2.2) (F : Option SocketFactory)
    {w : World κ} (empty : w.slot = none) :
    World.Dialled (xs F) w (Act.under F x s w).2.2 := by
  rw [Act.under_eq]
  exact World.scope_dials empty xs dials F

/-- A call that tries to connect to nobody may run in a scope.  The slot is then as it was, or
empty. -/
theorem Cursor.pull_undialled {κ γ β : Type} {x : Act κ γ β} (quiet : Undialled 0 x)
    (cursor : Cursor γ) (w : World κ) :
    ∃ slot : Slot, (slot = w.slot ∨ slot = none) ∧
      World.Undialled 0 { w with slot := slot } (Cursor.pull x cursor w).2.2 := by
  induction cursor generalizing w with
  | bare c => exact ⟨w.slot, .inl rfl, quiet c w⟩
  | under factory inner ih =>
      obtain ⟨slot, left, still⟩ := ih { w with slot := factory.or w.slot }
      simp only [Cursor.pull, World.inScope_eq]
      cases factory with
      | none => exact ⟨slot, left, still⟩
      | some f => exact ⟨none, .inr rfl, rfl, still.configured, still.dials, still.links⟩

/-- One that runs outside of every scope leaves the slot as it was. -/
theorem Cursor.reach_undialled {κ γ β : Type} {x : Act κ γ β} (quiet : Undialled 0 x)
    (cursor : Cursor γ) (w : World κ) : World.Undialled 0 w (Cursor.reach x cursor w).2.2 := by
  induction cursor with
  | bare c => exact quiet c w
  | under factory inner ih => exact ih

/-! ## Contexts of a factory -/

/-- A context that comes from a factory with the socket factory `F`: a facade that carries it,
before or after it was closed, over a bare context; or such a bare context itself. -/
inductive Stems (F : Option SocketFactory) : Context LdapDirContext → Prop where
  | bare (c : LdapDirContext) : Stems F (.plain c)
  | facade (c : LdapDirContext) (handler : Option CloseHandler) :
      Stems F (.managed (.plain c) handler F)
  | closed : Stems F (.closed F)

/-- A usage tried to connect with these factories, and its contexts come from the factory. -/
structure Yield.Sound (F : Option SocketFactory) (factories : List (Option SocketFactory))
    (w : World (Context LdapDirContext)) (y : Yield) : Prop where
  dialled : World.Dialled factories w y.world
  left : ∀ d ∈ y.left, Stems F d
  contexts : ∀ d ∈ y.contexts, Stems F d

section Using

variable {F : Option SocketFactory} {w w' : World (Context LdapDirContext)}

/-- Nothing is handed out, and nobody was connected to. -/
theorem Yield.Sound.quiet {left : Option (Context LdapDirContext)}
    (quiet : World.Undialled 0 w w') (stems : ∀ d ∈ left, Stems F d) :
    Yield.Sound F [] w ⟨left, [], [], w'⟩ :=
  ⟨quiet.dialled, stems, fun _ member => absurd member List.not_mem_nil⟩

/-- What is handed out for a bare context that was opened. -/
theorem mem_opened {f : LdapDirContext → Context LdapDirContext} (made : ∀ c, Stems F (f c))
    (r : Except Failure LdapDirContext) : ∀ d ∈ (r.map f).toOption.toList, Stems F d := by
  intro d member
  cases r with
  | error failure => cases member
  | ok c =>
      obtain rfl := List.mem_singleton.1 member
      exact made c

/-- A bare context has the whole capability. -/
theorem refusal?_plain (c : LdapDirContext) (name : Option String) :
    Context.refusal? (.plain c : Context LdapDirContext) name = none := by
  cases name <;> rfl

/-- What an operation on a bare context hands out is bare. -/
theorem handedOut_bare {r : Except Failure (Reply LdapDirContext SearchCursor)}
    {d : Context LdapDirContext} (handed : d ∈ (Usage.handedOut (r.map (.map .plain .bare))).1) :
    Stems F d := by
  rcases r with failure | reply
  · cases handed
  · cases reply with
    | context c =>
        obtain rfl := List.mem_singleton.1 handed
        exact .bare c
    | _ => cases handed

/-- What an operation on a facade hands out is bare, or it has a facade of the same kind. -/
theorem handedOut_facade {op : Op} {r : Except Failure (Reply LdapDirContext SearchCursor)}
    {d : Context LdapDirContext} (handed : d ∈ (Usage.handedOut
      ((r.map (.map .plain .bare)).map (Context.facadeReply F op))).1) : Stems F d := by
  rcases r with failure | reply
  · cases handed
  · cases reply with
    | context c =>
        cases op with
        | newInstance controls =>
            obtain rfl := List.mem_singleton.1 handed
            exact .facade c none
        | _ =>
            obtain rfl := List.mem_singleton.1 handed
            exact .bare c
    | _ => cases op <;> cases handed

theorem perform_bare_dials (c : LdapDirContext) (op : Op) (w : World (Context LdapDirContext)) :
    World.Dialled (if op.opensConnection then [w.slot] else []) w
      (Context.perform (.plain c) op w).2.2 := by
  cases opens : op.opensConnection with
  | true => exact LdapDirContext.perform_dials opens c w
  | false => exact (LdapDirContext.perform_undialled opens c w).dialled

/-- A facade reconnects under its factory, and carries out everything else without. -/
theorem perform_facade_dials (empty : w.slot = none) (c : LdapDirContext)
    (handler : Option CloseHandler) (op : Op) :
    World.Dialled (if op.opensConnection then [F] else []) w
      (Context.perform (.managed (.plain c) handler F) op w).2.2 := by
  rw [Context.perform_forwarded (refusal?_plain c op.ldapName?)]
  have dialled := World.scope_dials empty (fun slot => if op.opensConnection then [slot] else [])
    (perform_bare_dials c op) (if op.opensConnection then F else none)
  have same : (if op.opensConnection then [if op.opensConnection then F else none] else []) =
      if op.opensConnection then [F] else [] := by
    cases op.opensConnection <;> rfl
  rwa [same] at dialled

theorem perform_sound {c : Context LdapDirContext} (stems : Stems F c) (empty : w.slot = none)
    (op : Op) : ((Usage.perform op).run c w).Sound F ((Usage.perform op).due F c) w := by
  cases stems with
  | bare c =>
      have dialled := perform_bare_dials c op w
      rw [empty] at dialled
      exact ⟨dialled, fun d left => Option.some.inj left ▸ .bare _, fun d => handedOut_bare⟩
  | facade c handler =>
      have dialled := perform_facade_dials (F := F) empty c handler op
      have forwarded := Context.perform_forwarded (refusal?_plain c op.ldapName?) handler F w
      rw [Usage.run, forwarded]
      rw [forwarded] at dialled
      exact ⟨dialled, fun d left => Option.some.inj left ▸ .facade _ handler,
        fun d => handedOut_facade⟩
  | closed => exact .quiet (.refl w) fun d left => Option.some.inj left ▸ .closed

/-- What an open facade opens for somebody: a bare context, or nothing, and the attempts take
the factory of the facade where they would take what is in the slot. -/
theorem openFor_dials (empty : w.slot = none)
    (x : Act (Context LdapDirContext) Unit LdapDirContext)
    (xs : Slot → List (Option SocketFactory))
    (dials : ∀ w, World.Dialled (xs w.slot) w (x () w).2.2)
    (bare : LdapDirContext → Context LdapDirContext) (inner : Context LdapDirContext)
    (handler : Option CloseHandler) :
    ∃ (r : Except Failure LdapDirContext) (w' : _),
      (Context.managed inner handler F).openFor (bare <$> x) () w = (r.map bare, (), w') ∧
        World.Dialled (xs F) w w' := by
  refine ⟨(Act.under F x () w).1, (Act.under F x () w).2.2, ?_, Act.under_dials xs dials F empty⟩
  change Act.under F (bare <$> x) () w = _
  simp only [Act.under_eq, Act.map_apply]

/-- Closing a context tries to connect to nobody, whatever its handler does. -/
theorem Stems.closes {c : Context LdapDirContext} (stems : Stems F c)
    (w : World (Context LdapDirContext)) :
    World.Undialled 0 w (c.close w).2.2 ∧ Stems F (c.close w).2.1 := by
  cases stems with
  | bare c => exact ⟨LdapDirContext.close_undialled c w, .bare _⟩
  | facade c handler =>
      refine ⟨?_, ?_⟩
      · -- What `closing` and a facade without a handler do.
        have closed : World.Undialled 0 w (Context.discardClosed
            ((Context.plain c).close w).2.1 ((Context.plain c).close w).2.2) :=
          (LdapDirContext.close_undialled c w).trans (LdapDirContext.discard_undialled _ _)
        -- What the other handlers begin with.
        have handed : World.Undialled 0 w (w.record (.handedBack (some c.base))) :=
          ⟨rfl, (w.configured_record _).trans (List.append_nil _), rfl, Nat.le_refl _⟩
        cases handler with
        | none => exact closed
        | some handler =>
            cases handler with
            | intoPool => exact ⟨handed.slot, handed.configured, handed.dials, handed.links⟩
            | refusing failure => exact handed.trans (LdapDirContext.discard_undialled c _)
            | closing => exact closed
      · rw [Context.close_managed]
        exact .closed
  | closed => exact ⟨.refl w, .closed⟩

/-- Nor does dropping it. -/
theorem Stems.drops {c : Context LdapDirContext} (stems : Stems F c)
    (w : World (Context LdapDirContext)) : World.Undialled 0 w (c.drop w).2 := by
  have closes := (stems.closes w).1
  cases stems with
  | bare c => exact LdapDirContext.discard_undialled c w
  | facade c handler =>
      simp only [Context.drop, Context.dropBy]
      generalize Context.close (.managed (.plain c) handler F) w = x at closes ⊢
      obtain ⟨(e | _) | _, c', w'⟩ := x
      · exact closes.trans (Undialled.warn (.closingDropped e) () w')
      · exact closes
      · exact closes
  | closed => exact .refl w

/-- What comes of using a context of a factory, from an empty slot. -/
theorem Usage.run_sound {c : Context LdapDirContext} (stems : Stems F c) (empty : w.slot = none)
    (u : Usage) : (u.run c w).Sound F (u.due F c) w := by
  have same : ∀ d ∈ some c, Stems F d := fun d found => Option.some.inj found ▸ stems
  cases u with
  | perform op => exact perform_sound stems empty op
  | follow referral =>
      cases stems with
      | bare c => exact .quiet (.refl w) same
      | closed => exact .quiet (.refl w) same
      | facade c handler =>
          obtain ⟨r, w', opened, dialled⟩ := openFor_dials (F := F) empty referral.connect
            (fun slot => if referral.destination.isOk then [slot] else [])
            (referral.connect_dials ()) .plain (.plain c) handler
          simp only [Usage.run, Context.isManaged, if_true, Context.follow_eq, opened]
          refine ⟨dialled, same, ?_⟩
          cases r with
          | error failure => exact fun d member => nomatch member
          | ok c => exact mem_opened (fun c => .facade c none) (.ok c)
  | initial config =>
      cases stems with
      | bare c => exact .quiet (.refl w) same
      | closed => exact .quiet (.refl w) same
      | facade c handler =>
          obtain ⟨r, w', opened, dialled⟩ := openFor_dials (F := F) empty config.initialContext
            (fun slot => [slot]) (LdapDirContext.openAt_dials _ _ _ _ _ _ ()) .plain (.plain c)
            handler
          simp only [Usage.run, Context.isManaged, if_true, opened]
          exact ⟨dialled, same, mem_opened .bare r⟩
  | close =>
      obtain ⟨quiet, left⟩ := stems.closes w
      exact .quiet quiet fun d found => Option.some.inj found ▸ left
  | drop => exact .quiet (stems.drops w) fun d found => nomatch found

/-- Obtaining a context is one attempt, configured by the factory's own socket factory, and
what comes of it is a facade that carries it. -/
theorem obtainAs_sound (f : ContextFactory) (credentials : Credentials) (mode : ReferralMode)
    (handler : CloseHandler) (empty : w.slot = none) :
    let x := f.obtainAs id credentials mode handler () w
    World.Dialled [f.socketFactory] w x.2.2 ∧
      ∀ d ∈ x.1.toOption.toList, Stems f.socketFactory d := by
  have dialled : World.Dialled [f.socketFactory] w (f.connect credentials mode () w).2.2 :=
    Act.under_dials (fun slot => [slot]) (LdapDirContext.openAt_dials _ _ _ _ _ _ ())
      f.socketFactory empty
  rw [ContextFactory.obtainAs, bind_pure_comp]
  simp only [Act.map_apply]
  exact ⟨dialled, mem_opened (fun c => .facade c (some handler)) _⟩

/-- Reading tries to connect to nobody. -/
theorem Reading.run_quiet (reading : Reading) (cursor : Cursor SearchCursor)
    (empty : w.slot = none) : World.Undialled 0 w (reading.run cursor w).2 := by
  -- A pull leaves the slot alone or empty, and here that is the same.
  have pulled {β : Type} {x : Act (Context LdapDirContext) SearchCursor β}
      (quiet : Undialled 0 x) : World.Undialled 0 w (Cursor.pull x cursor w).2.2 := by
    obtain ⟨slot, left, still⟩ := Cursor.pull_undialled quiet cursor w
    rw [← empty, or_self] at left
    subst left
    exact still
  cases reading with
  | hasMore => exact pulled SearchCursor.hasMore_undialled
  | next => exact pulled SearchCursor.next_undialled
  | close => exact Cursor.reach_undialled SearchCursor.close_undialled cursor w
  | drop => exact World.undialled_letGo w _

end Using

/-! ## Rosters -/

namespace Roster

/-- What every errand keeps: the slots are empty, and the contexts come from a factory with the
socket factory `F`. -/
structure Steady (F : Option SocketFactory) (r : Roster) : Prop where
  slots : ∀ thread, r.slots thread = none
  stems : ∀ c, some c ∈ r.contexts → Stems F c

variable {f : ContextFactory} {r : Roster} {thread : Nat}

theorem leftBy_seenBy (r : Roster) (thread : Nat) (w : World (Context LdapDirContext)) :
    (r.leftBy thread w).seenBy thread = w := by
  simp [leftBy, seenBy]

/-- An errand changes no slot but that of its thread. -/
theorem step_slots (f : ContextFactory) (r : Roster) {thread other : Nat} (m : Errand)
    (elsewhere : other ≠ thread) : (r.step f thread m).slots other = r.slots other := by
  cases m with
  | use i usage =>
      simp only [step]
      split
      · exact if_neg elsewhere
      · rfl
  | read j reading =>
      simp only [step]
      split
      · exact if_neg elsewhere
      · rfl
  | _ => exact if_neg elsewhere

/-- A context that is handed out for an attempt that was due. -/
theorem welcome_dials {xs : List (Option SocketFactory)}
    {x : Except Failure (Context LdapDirContext) × Unit × World (Context LdapDirContext)}
    (dialled : World.Dialled xs (r.seenBy thread) x.2.2) :
    World.Dialled xs (r.seenBy thread) ((r.welcome thread x).seenBy thread) := by
  have seen : (r.welcome thread x).seenBy thread = x.2.2 := r.leftBy_seenBy thread x.2.2
  rwa [seen]

/-- An errand makes the attempts that are due, and no other. -/
theorem step_dials (steady : Steady f.socketFactory r) (thread : Nat) (m : Errand) :
    World.Dialled (r.due f m) (r.seenBy thread) ((r.step f thread m).seenBy thread) := by
  have empty : (r.seenBy thread).slot = none := steady.slots thread
  cases m with
  | obtain mode => exact welcome_dials (obtainAs_sound f _ mode _ empty).1
  | obtainWithCloseHandler mode handler =>
      exact welcome_dials (obtainAs_sound f _ mode handler empty).1
  | obtainWithCredentials credentials mode =>
      exact welcome_dials (obtainAs_sound f credentials mode _ empty).1
  | use i usage =>
      simp only [step, due]
      split
      next c found =>
        have dialled := (usage.run_sound (steady.stems c (List.mem_of_getElem? found)) empty).dialled
        rwa [← r.leftBy_seenBy thread (usage.run c (r.seenBy thread)).world] at dialled
      next => exact (World.Undialled.refl _).dialled
  | read j reading =>
      simp only [step, due]
      split
      next cursor found =>
        have quiet := (reading.run_quiet cursor empty).dialled
        rwa [← r.leftBy_seenBy thread (reading.run cursor (r.seenBy thread)).2] at quiet
      next => exact (World.Undialled.refl _).dialled

/-- A context that joins those of a factory comes from it, too. -/
theorem welcome_stems {F : Option SocketFactory} (steady : Steady F r)
    {x : Except Failure (Context LdapDirContext) × Unit × World (Context LdapDirContext)}
    (made : ∀ d ∈ x.1.toOption.toList, Stems F d) :
    ∀ c, some c ∈ (r.welcome thread x).contexts → Stems F c := by
  intro c member
  rcases List.mem_append.1 member with before | joined
  · exact steady.stems c before
  · obtain ⟨d, handed, same⟩ := List.mem_map.1 joined
    obtain rfl := Option.some.inj same
    exact made d handed

/-- The contexts after an errand come from the factory if they did before. -/
theorem step_stems (steady : Steady f.socketFactory r) (thread : Nat) (m : Errand) :
    ∀ c, some c ∈ (r.step f thread m).contexts → Stems f.socketFactory c := by
  have empty : (r.seenBy thread).slot = none := steady.slots thread
  cases m with
  | obtain mode => exact welcome_stems steady (obtainAs_sound f _ mode _ empty).2
  | obtainWithCloseHandler mode handler =>
      exact welcome_stems steady (obtainAs_sound f _ mode handler empty).2
  | obtainWithCredentials credentials mode =>
      exact welcome_stems steady (obtainAs_sound f credentials mode _ empty).2
  | use i usage =>
      simp only [step]
      split
      next used found =>
        have sound := usage.run_sound (steady.stems used (List.mem_of_getElem? found)) empty
        intro c member
        rcases List.mem_append.1 member with there | joined
        · rcases List.mem_or_eq_of_mem_set there with before | left
          · exact steady.stems c before
          · exact sound.left c left.symm
        · obtain ⟨d, handed, same⟩ := List.mem_map.1 joined
          obtain rfl := Option.some.inj same
          exact sound.contexts d handed
      next => exact steady.stems
  | read j reading =>
      simp only [step]
      split
      next => exact steady.stems
      next => exact steady.stems

/-- An errand keeps what every errand keeps. -/
theorem step_steady (steady : Steady f.socketFactory r) (thread : Nat) (m : Errand) :
    Steady f.socketFactory (r.step f thread m) where
  slots := by
    intro t
    by_cases same : t = thread
    · subst same
      exact (step_dials steady t m).slot.trans (steady.slots t)
    · exact (step_slots f r m same).trans (steady.slots t)
  stems := step_stems steady thread m

/-- And a run keeps it. -/
theorem run_steady (steady : Steady f.socketFactory r) (errands : List (Nat × Errand)) :
    Steady f.socketFactory (r.run f errands) := by
  induction errands generalizing r with
  | nil => exact steady
  | cons e rest ih => exact ih (step_steady steady e.1 e.2)

theorem start_steady (F : Option SocketFactory) (w : World (Context LdapDirContext)) :
    Steady F (start w) :=
  ⟨fun _ => rfl, fun _ member => absurd member List.not_mem_nil⟩

/-- **The hand-off.**  From empty slots, let a factory and whatever comes from it be used by
any number of threads, in any order and with any answers from the servers.  The slots are empty
after every errand, and an errand makes the attempts to connect that are due for it, each
configured by the socket factory of that factory, or by none when it has none: one when a
context is obtained, one when a facade is reconnected or opens an initial context, one when a
facade follows a referral that leads somewhere.  A bare context that was handed out and is
reconnected makes an unconfigured one, and nothing else makes any.  The socket factories that
leave a mark where they configure a connection leave theirs there, and no other is ever asked.
No connection comes up without an attempt, so an errand does not add more connections than
that. -/
theorem factory_hand_off (f : ContextFactory) (w : World (Context LdapDirContext))
    (errands : List (Nat × Errand)) :
    let r := (start w).run f errands
    (∀ thread, r.slots thread = none) ∧
      ∀ thread m,
        let r' := r.step f thread m
        (∃ added, r'.world.network.dials = r.world.network.dials ++ added ∧
            added.map Dial.factory = r.due f m) ∧
          r'.world.configured = r.world.configured ++ SocketFactory.marks (r.due f m) ∧
          r'.world.network.links.length ≤
            r.world.network.links.length + (r.due f m).length ∧
          ∀ t, r'.slots t = none := by
  intro r
  have steady : Steady f.socketFactory r := run_steady (start_steady _ w) errands
  refine ⟨steady.slots, ?_⟩
  intro thread m r'
  have dialled := step_dials steady thread m
  exact ⟨dialled.dials, dialled.configured, dialled.links, (step_steady steady thread m).slots⟩

/-- Four threads: a facade that is derived from another one reconnects under the same factory,
and one that was closed opens nothing. -/
example :
    let f : ContextFactory := ⟨{ host := "localhost" }, some (.named "own")⟩
    let w : World (Context LdapDirContext) := { network := .loopback [⟨"localhost:389", []⟩] }
    let errands : List (Nat × Errand) :=
      [(0, .obtain .ignore), (1, .use 0 (.perform (.newInstance []))),
        (2, .use 1 (.perform (.reconnect []))), (2, .use 0 .close),
        (3, .use 0 (.perform (.reconnect [])))]
    let r := (start w).run f errands
    r.world.network.dials.map Dial.factory = [some (.named "own"), some (.named "own")] ∧
      r.world.network.links.length = 2 := by
  decide +kernel

end Roster

end ManagedLdap
