/-
# ManagedLdap.Proofs.Facade.Transparent -- an open facade is not there

A pool can put a facade around any context only if nobody can tell.  So a caller holds a
context and the cursors it got, makes calls in any order, and keeps what they report
(`Caller`).  The same calls are made on a context and on a facade around it.

What a facade does to the slot of its thread must not matter to the context behind it for that,
so the backend is one that does not look there (`SlotBlind`); apart from this it is any.  Then
each call reports the same on both sides, up to what `Report.behind` says, and leaves the same
behind (`step_behind`), and so does every sequence of calls (`facade_transparent`).

That the calls which reach the context are the same is part of this: a backend that records the
calls it gets (`Noted`) is a backend like any other, and leaves its record in the world.
-/
import ManagedLdap.Managed
import ManagedLdap.Script.Context

namespace ManagedLdap

set_option autoImplicit false

/-! ## Worlds but for the slot -/

namespace World

variable {κ : Type} {w w' w'' : World κ}

/-- A world without its slot, and without what the slot held when something happened. -/
def unslotted (w : World κ) : World κ :=
  { w with slot := none, events := w.events.map fun e => { e with slot := none } }

/-- Two worlds that differ at most in what the slot holds and held. -/
def Alike (w w' : World κ) : Prop := w.unslotted = w'.unslotted

theorem Alike.refl (w : World κ) : Alike w w := rfl

theorem Alike.symm (alike : Alike w w') : Alike w' w := Eq.symm alike

theorem Alike.trans (first : Alike w w') (second : Alike w' w'') : Alike w w'' :=
  Eq.trans first second

theorem unslotted_record (w : World κ) (what : Happening) :
    (w.record what).unslotted =
      { w.unslotted with events := w.unslotted.events ++ [⟨what, none⟩] } := by
  simp only [unslotted, World.record, List.map_append, List.map_cons, List.map_nil]

theorem Alike.record (alike : Alike w w') (what : Happening) :
    Alike (w.record what) (w'.record what) := by
  rw [Alike, unslotted_record, unslotted_record, alike]

/-- What happened, in order. -/
theorem Alike.happened (alike : Alike w w') :
    w.events.map Event.what = w'.events.map Event.what := by
  have events := congrArg (List.map Event.what) (congrArg World.events alike)
  simpa only [unslotted, List.map_map, Function.comp_def] using events

end World

/-! ## Calls that do not look at the slot -/

namespace Act

variable {κ σ α β : Type}

/-- What a call returns and leaves behind does not depend on the slot, but for the slot. -/
def SlotBlind (x : Act κ σ α) : Prop :=
  ∀ s w w', World.Alike w w' →
    (x s w).1 = (x s w').1 ∧ (x s w).2.1 = (x s w').2.1 ∧ World.Alike (x s w).2.2 (x s w').2.2

namespace SlotBlind

theorem ret (a : α) : SlotBlind (pure a : Act κ σ α) := fun _ _ _ alike => ⟨rfl, rfl, alike⟩

theorem failWith (f : Failure) : SlotBlind (Act.failWith f : Act κ σ α) :=
  fun _ _ _ alike => ⟨rfl, rfl, alike⟩

theorem fail (e : DirError) : SlotBlind (Act.fail e : Act κ σ α) := failWith (.error e)

theorem ofExcept (r : Except Failure α) : SlotBlind (Act.ofExcept r : Act κ σ α) := by
  cases r with
  | ok a => exact ret a
  | error f => exact failWith f

theorem self : SlotBlind (Act.self : Act κ σ σ) := fun _ _ _ alike => ⟨rfl, rfl, alike⟩

theorem update (f : σ → σ) : SlotBlind (Act.update f : Act κ σ Unit) :=
  fun _ _ _ alike => ⟨rfl, rfl, alike⟩

theorem record (what : Happening) : SlotBlind (Act.record what : Act κ σ Unit) :=
  fun _ _ _ alike => ⟨rfl, rfl, alike.record what⟩

theorem bind {x : Act κ σ α} {f : α → Act κ σ β} (first : SlotBlind x)
    (second : ∀ a, SlotBlind (f a)) : SlotBlind (x >>= f) := by
  intro s w w' alike
  obtain ⟨result, object, world⟩ := first s w w' alike
  simp only [bind_apply]
  generalize x s w = y at result object world ⊢
  generalize x s w' = y' at result object world ⊢
  obtain ⟨r, t, v⟩ := y
  obtain ⟨r', t', v'⟩ := y'
  obtain rfl : r = r' := result
  obtain rfl : t = t' := object
  cases r with
  | error e => exact ⟨rfl, rfl, world⟩
  | ok a => exact second a t v v' world

theorem map {x : Act κ σ α} (f : α → β) (blind : SlotBlind x) : SlotBlind (f <$> x) := by
  rw [← bind_pure_comp]
  exact blind.bind fun a => ret (f a)

/-- A call on a part of the object. -/
theorem within {τ : Type} {get : σ → τ} {set : τ → σ → σ} {x : Act κ τ α} (blind : SlotBlind x) :
    SlotBlind (Act.within get set x) := by
  intro s w w' alike
  obtain ⟨result, object, world⟩ := blind (get s) w w' alike
  exact ⟨result, congrArg (set · s) object, world⟩

end SlotBlind

end Act

/-- A backend whose contexts and cursors do not look at the slot. -/
structure SlotBlind (ℓ : Type) {γ α : Type} [Backend ℓ γ] [Source γ α] : Prop where
  perform : ∀ {κ : Type} (op : Op), (Backend.perform op : Act κ ℓ (Reply ℓ γ)).SlotBlind
  hasMore : ∀ {κ : Type}, (Source.hasMore : Act κ γ Bool).SlotBlind
  next : ∀ {κ : Type}, (Source.next : Act κ γ (Option α)).SlotBlind
  close : ∀ {κ : Type}, (Source.close : Act κ γ Unit).SlotBlind

/-! ### Scripted contexts -/

theorem ScriptedContext.carryOut_blind {κ : Type} (op : Op) :
    (ScriptedContext.carryOut op : Act κ ScriptedContext _).SlotBlind := by
  refine Act.SlotBlind.self.bind fun c => ?_
  have rest : (do Act.ofExcept (c.obey op.key); Act.update fun c => c.changed op; return c.reply op :
      Act κ ScriptedContext _).SlotBlind :=
    (Act.SlotBlind.ofExcept _).bind fun _ => (Act.SlotBlind.update _).bind fun _ => .ret _
  dsimp only
  split
  · exact (Act.SlotBlind.record _).bind fun _ => rest
  · exact rest

/-- A scripted context notes what the slot holds but does not act on it. -/
theorem ScriptedContext.slotBlind : SlotBlind ScriptedContext where
  perform op := by
    change (ScriptedContext.perform op).SlotBlind
    unfold ScriptedContext.perform
    split
    · split
      · exact carryOut_blind _
      · exact .fail _
    · exact carryOut_blind _
    · exact carryOut_blind _
  hasMore := by
    refine (Act.SlotBlind.record _).bind fun _ => Act.SlotBlind.self.bind fun c => ?_
    split
    · exact (Act.SlotBlind.update _).bind fun _ => .failWith _
    · exact .ret _
  next := by
    refine (Act.SlotBlind.record _).bind fun _ => Act.SlotBlind.self.bind fun c => ?_
    split
    · exact .ret _
    · refine (Act.SlotBlind.update _).bind fun _ => ?_
      split
      · exact .ret _
      · exact .failWith _
  close := by
    refine (Act.SlotBlind.record _).bind fun _ => Act.SlotBlind.self.bind fun c =>
      (Act.SlotBlind.update _).bind fun _ => ?_
    split
    · exact .failWith _
    · exact .ret _

/-! ### Noted calls -/

/-- A context or a cursor under a name.  The calls that reach it are recorded, and carried out
then. -/
structure Noted (τ : Type) where
  name : String
  core : τ

namespace Noted

variable {κ τ β ℓ γ α : Type}

/-- A call that is recorded. -/
def noting (what : String → Happening) (x : Act κ τ β) : Act κ (Noted τ) β := do
  let c ← Act.self
  Act.record (what c.name)
  Act.within core (fun t c => { c with core := t }) x

instance [Source γ α] : Source (Noted γ) α where
  hasMore := noting (fun _ => .pulled .hasMore) Source.hasMore
  next := noting (fun _ => .pulled .next) Source.next
  close := noting (fun _ => .pulled .close) Source.close
  discard c := Source.discard c.core
  remaining c := Source.remaining c.core

instance [Backend ℓ γ] : Backend (Noted ℓ) (Noted γ) where
  offersLdap c := Backend.offersLdap c.core
  ask c := Backend.ask c.core
  perform op := do
    let c ← Act.self
    Reply.map (Noted.mk c.name) (Noted.mk c.name) <$>
      noting (fun name => .called name op) (Backend.perform op)
  close := noting .closed Backend.close
  discard c := Backend.discard c.core
  shown c := Backend.shown c.core

theorem noting_blind {x : Act κ τ β} (blind : x.SlotBlind) (what : String → Happening) :
    (noting what x).SlotBlind :=
  Act.SlotBlind.self.bind fun _ => (Act.SlotBlind.record _).bind fun _ => blind.within

theorem slotBlind [Backend ℓ γ] [Source γ α] (blind : SlotBlind ℓ) : SlotBlind (Noted ℓ) where
  perform op := Act.SlotBlind.self.bind fun _ => (noting_blind (blind.perform op) _).map _
  hasMore := noting_blind blind.hasMore _
  next := noting_blind blind.next _
  close := noting_blind blind.close _

end Noted

/-! ## Contexts and cursors of such a backend -/

/-- A call without an object of its own, on whichever worlds are alike. -/
def Blind {κ σ α : Type} (x : World κ → Except Failure α × σ × World κ) : Prop :=
  ∀ w w', World.Alike w w' →
    (x w).1 = (x w').1 ∧ (x w).2.1 = (x w').2.1 ∧ World.Alike (x w).2.2 (x w').2.2

variable {ℓ γ α η : Type} [Backend ℓ γ] [Source γ α]

/-- A scope changes nothing for a call that does not look at the slot. -/
theorem Cursor.pull_alike {κ β : Type} {x : Act κ γ β} (blind : x.SlotBlind) (c : Cursor γ) :
    Blind (Cursor.pull x c) := by
  induction c with
  | bare c =>
      intro w w' alike
      obtain ⟨result, object, world⟩ := blind c w w' alike
      exact ⟨result, congrArg Cursor.bare object, world⟩
  | under factory inner ih =>
      intro w w' alike
      simp only [Cursor.pull, World.inScope_eq]
      obtain ⟨result, object, world⟩ := ih { w with slot := factory.or w.slot }
        { w' with slot := factory.or w'.slot } alike
      exact ⟨result, congrArg (Cursor.under factory) object, world⟩

theorem Cursor.reach_alike {κ β : Type} {x : Act κ γ β} (blind : x.SlotBlind) (c : Cursor γ) :
    Blind (Cursor.reach x c) := by
  induction c with
  | bare c =>
      intro w w' alike
      obtain ⟨result, object, world⟩ := blind c w w' alike
      exact ⟨result, congrArg Cursor.bare object, world⟩
  | under factory inner ih =>
      intro w w' alike
      obtain ⟨result, object, world⟩ := ih w w' alike
      exact ⟨result, congrArg (Cursor.under factory) object, world⟩

/-- A pull of a cursor that is under one more factory. -/
theorem Cursor.pull_under {κ β : Type} {x : Act κ γ β} (blind : x.SlotBlind)
    (factory : Option SocketFactory) (c : Cursor γ) {w w' : World κ} (alike : World.Alike w' w) :
    (Cursor.pull x (.under factory c) w').1 = (Cursor.pull x c w).1 ∧
      (Cursor.pull x (.under factory c) w').2.1 = .under factory (Cursor.pull x c w).2.1 ∧
      World.Alike (Cursor.pull x (.under factory c) w').2.2 (Cursor.pull x c w).2.2 := by
  obtain ⟨result, object, world⟩ :=
    c.pull_alike blind { w' with slot := factory.or w'.slot } w alike
  rw [Cursor.pull, World.inScope_eq]
  exact ⟨result, congrArg (Cursor.under factory) object, world⟩

theorem Cursor.reach_under {κ β : Type} {x : Act κ γ β} (blind : x.SlotBlind)
    (factory : Option SocketFactory) (c : Cursor γ) {w w' : World κ} (alike : World.Alike w' w) :
    (Cursor.reach x (.under factory c) w').1 = (Cursor.reach x c w).1 ∧
      (Cursor.reach x (.under factory c) w').2.1 = .under factory (Cursor.reach x c w).2.1 ∧
      World.Alike (Cursor.reach x (.under factory c) w').2.2 (Cursor.reach x c w).2.2 := by
  obtain ⟨result, object, world⟩ := c.reach_alike blind w' w alike
  exact ⟨result, congrArg (Cursor.under factory) object, world⟩

theorem Context.perform_alike (blind : SlotBlind ℓ) (c : Context ℓ η) (op : Op) :
    Blind (c.perform op) := by
  induction c with
  | plain c =>
      intro w w' alike
      obtain ⟨result, object, world⟩ := blind.perform op c w w' alike
      exact ⟨congrArg (Except.map (Reply.map Context.plain Cursor.bare)) result,
        congrArg Context.plain object, world⟩
  | closed factory => exact fun w w' alike => ⟨rfl, rfl, alike⟩
  | managed inner handler factory ih =>
      intro w w' alike
      cases refused : Context.refusal? inner op.ldapName? with
      | some e =>
          rw [Context.perform_refused refused, Context.perform_refused refused]
          exact ⟨rfl, rfl, alike⟩
      | none =>
          rw [Context.perform_forwarded refused, Context.perform_forwarded refused]
          obtain ⟨result, object, world⟩ :=
            ih { w with slot := (if op.opensConnection then factory else none).or w.slot }
              { w' with slot := (if op.opensConnection then factory else none).or w'.slot } alike
          exact ⟨congrArg (Except.map (Context.facadeReply factory op)) result,
            congrArg (Context.managed · handler factory) object, world⟩

/-! ## Callers -/

/-- Somebody who holds a context and the cursors that came from it. -/
structure Caller (ℓ γ η : Type) where
  context : Context ℓ η
  cursors : List (Cursor γ) := []
  world : World (Context ℓ η)

namespace Caller

/-- A call of the context, or of one of the cursors. -/
inductive Call where
  | ask (q : Query)
  | perform (op : Op)
  | cursor (j : Nat) (call : CursorCall)

namespace Call

/-- The name under which a call belongs to the LDAP capability. -/
def ldapName? : Call → Option String
  | .ask q => q.ldapName?
  | .perform op => op.ldapName?
  | .cursor _ _ => none

end Call

/-- What a caller gets to see of a call.  A cursor is told apart only by its place. -/
inductive Report (ℓ η α : Type) where
  /-- The context has no such operation: it cannot be called. -/
  | noSuchCall
  /-- There is no cursor in that place. -/
  | noCursor
  | answer (r : Except Failure Answer)
  | reply (r : Except Failure (Reply (Context ℓ η) Unit))
  | more (r : Except Failure Bool)
  | item (r : Except Failure (Option α))
  | done (r : Except Failure Unit)

/-- What a caller sees of a reply. -/
def seen : Reply (Context ℓ η) (Cursor γ) → Reply (Context ℓ η) Unit := Reply.map id fun _ => ()

/-- The cursor that a reply hands out. -/
def handed : Except Failure (Reply (Context ℓ η) (Cursor γ)) → List (Cursor γ)
  | .ok (.entries cursor) => [cursor]
  | _ => []

/-- A call of the cursor in a place. -/
def onCursor {β : Type} (s : Caller ℓ γ η) (j : Nat)
    (x : Cursor γ → World (Context ℓ η) → Except Failure β × Cursor γ × World (Context ℓ η))
    (report : Except Failure β → Report ℓ η α) : Report ℓ η α × Caller ℓ γ η :=
  match s.cursors[j]? with
  | none => (.noCursor, s)
  | some cursor =>
      match x cursor s.world with
      | (r, cursor, w) => (report r, { s with cursors := s.cursors.set j cursor, world := w })

/-- Make a call that can be made. -/
def make (s : Caller ℓ γ η) : Call → Report ℓ η α × Caller ℓ γ η
  | .ask q => (.answer (s.context.ask q), s)
  | .perform op =>
      match s.context.perform op s.world with
      | (r, context, w) => (.reply (r.map seen), ⟨context, s.cursors ++ handed r, w⟩)
  | .cursor j .hasMore => s.onCursor j Cursor.hasMore .more
  | .cursor j .next => s.onCursor j Cursor.next .item
  | .cursor j .close => s.onCursor j Cursor.close .done

/-- Whether a call can be made: what belongs to the LDAP capability can only be asked of a context
that offers it. -/
def offers (s : Caller ℓ γ η) (call : Call) : Bool :=
  call.ldapName?.isNone || s.context.offersLdap

/-- Make a call, if it can be made. -/
def step (s : Caller ℓ γ η) (call : Call) : Report ℓ η α × Caller ℓ γ η :=
  if s.offers call then s.make call else (.noSuchCall, s)

/-- Make calls in order. -/
def run (s : Caller ℓ γ η) : List Call → List (Report ℓ η α) × Caller ℓ γ η
  | [] => ([], s)
  | call :: rest =>
      let (report, s) := s.step call
      let (reports, s) := s.run rest
      (report :: reports, s)

/-- What a call of a facade reports where the same call of the context behind it reports `r`:
a call that the context lacks is refused by its name, a further instance gets a facade of its
own, and everything else is the same. -/
def Report.behind (factory : Option SocketFactory) : Call → Report ℓ η α → Report ℓ η α
  | .ask q, .noSuchCall => .answer (.error (.error (.unsupported (q.ldapName?.getD ""))))
  | .perform op, .noSuchCall => .reply (.error (.error (.unsupported (op.ldapName?.getD ""))))
  | .perform (.newInstance _), .reply (.ok (.context c)) =>
      .reply (.ok (.context (.derived c factory)))
  | _, r => r

/-! ## One call -/

/-- `s'` holds a facade around what `s` holds, and the cursors of that facade; the worlds are the
same but for the slot. -/
structure Behind (handler : Option η) (factory : Option SocketFactory) (s s' : Caller ℓ γ η) :
    Prop where
  context : s'.context = .managed s.context handler factory
  cursors : s'.cursors = s.cursors.map (Cursor.under factory)
  world : World.Alike s'.world s.world

variable {handler : Option η} {factory : Option SocketFactory} {s s' : Caller ℓ γ η}

omit [Backend ℓ γ] [Source γ α] in
theorem seen_facadeReply (op : Op) (r : Except Failure (Reply (Context ℓ η) (Cursor γ))) :
    Report.reply (α := α) ((r.map (Context.facadeReply factory op)).map seen) =
      Report.behind factory (.perform op) (.reply (r.map seen)) := by
  cases r with
  | error f => rfl
  | ok reply => cases reply <;> cases op <;> rfl

omit [Backend ℓ γ] in
theorem handed_facadeReply (op : Op) (r : Except Failure (Reply (Context ℓ η) (Cursor γ))) :
    handed (r.map (Context.facadeReply factory op)) = (handed r).map (Cursor.under factory) := by
  cases r with
  | error f => rfl
  | ok reply => cases reply <;> cases op <;> rfl

/-- Everything can be asked of a facade. -/
theorem Behind.offers (behind : Behind handler factory s s') (call : Call) :
    s'.offers call = true := by
  simp only [Caller.offers, behind.context, Context.offersLdap, Bool.or_true]

/-- A call that the context behind a facade lacks gets no further than the facade. -/
theorem make_refused (behind : Behind handler factory s s') {call : Call}
    (lacks : s.offers call = false) :
    (s'.make call : Report ℓ η α × _) = (Report.behind factory call .noSuchCall, s') := by
  obtain ⟨context, cursors, world⟩ := s'
  obtain rfl : context = .managed s.context handler factory := behind.context
  obtain ⟨named, plain⟩ : call.ldapName?.isNone = false ∧ s.context.offersLdap = false :=
    Bool.or_eq_false_iff.1 lacks
  obtain ⟨name, named⟩ := Option.isSome_iff_exists.1 (Option.isNone_eq_false_iff.1 named)
  have refused : Context.refusal? s.context call.ldapName? = some (.unsupported name) := by
    simp only [named, Context.refusal?, plain]
    rfl
  cases call with
  | ask q =>
      replace named : q.ldapName? = some name := named
      simp only [make, Context.ask_refused refused, Report.behind, named, Option.getD_some]
  | perform op =>
      replace named : op.ldapName? = some name := named
      simp only [make, Context.perform_refused refused, Report.behind, named, Option.getD_some,
        Except.map, handed, List.append_nil]
  | cursor j call => cases named

/-- The context behind a facade that offers a call gets it. -/
theorem accepted {call : Call} (offered : s.offers call = true) :
    Context.refusal? s.context call.ldapName? = none := by
  unfold Context.refusal?
  cases named : call.ldapName? with
  | none => rfl
  | some name =>
      simp only [Caller.offers, named, Option.isNone_some, Bool.false_or] at offered
      simp only [offered, if_true]

omit [Backend ℓ γ] [Source γ α] in
/-- The cursors of a facade are the cursors of the context behind it, under its factory. -/
theorem onCursor_behind (behind : Behind handler factory s s') (j : Nat) {β : Type}
    {x x' : Cursor γ → World (Context ℓ η) → Except Failure β × Cursor γ × World (Context ℓ η)}
    (alike : ∀ cursor w w', World.Alike w' w →
      (x' (.under factory cursor) w').1 = (x cursor w).1 ∧
      (x' (.under factory cursor) w').2.1 = .under factory (x cursor w).2.1 ∧
      World.Alike (x' (.under factory cursor) w').2.2 (x cursor w).2.2)
    (report : Except Failure β → Report ℓ η α) :
    (s'.onCursor j x' report).1 = (s.onCursor j x report).1 ∧
      Behind handler factory (s.onCursor j x report).2 (s'.onCursor j x' report).2 := by
  unfold onCursor
  rw [behind.cursors, List.getElem?_map]
  cases found : s.cursors[j]? with
  | none => exact ⟨rfl, behind⟩
  | some cursor =>
      obtain ⟨result, object, world⟩ := alike cursor s.world s'.world behind.world
      refine ⟨congrArg report result, behind.context, ?_, world⟩
      simp only [Option.map_some, object, List.map_set]

/-- **One call.**  A call of a facade reports what the same call of the context behind it does,
and leaves the same behind. -/
theorem make_behind (blind : SlotBlind ℓ) (behind : Behind handler factory s s') {call : Call}
    (offered : s.offers call = true) :
    (s'.make call).1 = Report.behind factory call (s.make call : Report ℓ η α × _).1 ∧
      Behind handler factory (s.make call : Report ℓ η α × _).2
        (s'.make call : Report ℓ η α × _).2 := by
  have accepted := accepted offered
  cases call with
  | ask q =>
      simp only [make, behind.context, Context.ask_forwarded accepted]
      exact ⟨by cases q <;> rfl, behind⟩
  | perform op =>
      obtain ⟨result, object, world⟩ := s.context.perform_alike blind op
        { s'.world with slot := (if op.opensConnection then factory else none).or s'.world.slot }
        s.world behind.world
      simp only [make, behind.context, Context.perform_forwarded accepted, result, object]
      refine ⟨seen_facadeReply op _, rfl, ?_, world⟩
      rw [handed_facadeReply, List.map_append, behind.cursors]
  | cursor j call =>
      cases call with
      | hasMore =>
          exact onCursor_behind behind j
            (fun c _ _ alike => c.pull_under blind.hasMore factory alike) .more
      | next =>
          exact onCursor_behind behind j
            (fun c _ _ alike => c.pull_under blind.next factory alike) .item
      | close =>
          exact onCursor_behind behind j
            (fun c _ _ alike => c.reach_under blind.close factory alike) .done

theorem step_behind (blind : SlotBlind ℓ) (behind : Behind handler factory s s') (call : Call) :
    (s'.step call).1 = Report.behind factory call (s.step call : Report ℓ η α × _).1 ∧
      Behind handler factory (s.step call : Report ℓ η α × _).2
        (s'.step call : Report ℓ η α × _).2 := by
  simp only [step, behind.offers call, if_true]
  cases offered : s.offers call with
  | true => exact make_behind blind behind offered
  | false =>
      rw [make_refused behind offered]
      exact ⟨rfl, behind⟩

/-! ## Any number of calls -/

theorem run_behind (blind : SlotBlind ℓ) (calls : List Call)
    (behind : Behind handler factory s s') :
    (s'.run calls).1 =
        List.zipWith (Report.behind factory) calls (s.run calls : List (Report ℓ η α) × _).1 ∧
      Behind handler factory (s.run calls : List (Report ℓ η α) × _).2
        (s'.run calls : List (Report ℓ η α) × _).2 := by
  induction calls generalizing s s' with
  | nil => exact ⟨rfl, behind⟩
  | cons call rest ih =>
      obtain ⟨report, behind⟩ := step_behind (α := α) blind behind call
      obtain ⟨reports, behind⟩ := ih behind
      refine ⟨?_, behind⟩
      simp only [run, List.zipWith_cons_cons, report, reports]

/-- **An open facade is transparent.**  The same calls, in any number and order, are made on a
context and on a facade around it.  They report the same, value for value, but that the facade
refuses by their name the calls that the context lacks, and that a further instance comes behind
a facade of its own.  The context behind the facade ends up as the context does, the cursors of
the facade as those of the context, and the world, with the record of all calls, as it does
without the facade. -/
theorem facade_transparent (blind : SlotBlind ℓ) (inner : Context ℓ η) (handler : Option η)
    (factory : Option SocketFactory) (w : World (Context ℓ η)) (calls : List Call) :
    let direct : List (Report ℓ η α) × Caller ℓ γ η := run { context := inner, world := w } calls
    let facade : List (Report ℓ η α) × Caller ℓ γ η :=
      run { context := .managed inner handler factory, world := w } calls
    facade.1 = List.zipWith (Report.behind factory) calls direct.1 ∧
      facade.2.context = .managed direct.2.context handler factory ∧
      facade.2.cursors = direct.2.cursors.map (Cursor.under factory) ∧
      World.Alike facade.2.world direct.2.world ∧
      facade.2.world.events.map Event.what = direct.2.world.events.map Event.what := by
  intro direct facade
  obtain ⟨reports, context, cursors, world⟩ := run_behind (α := α) blind calls
    (⟨rfl, rfl, .refl w⟩ : Behind handler factory (γ := γ) { context := inner, world := w }
      { context := .managed inner handler factory, world := w })
  exact ⟨reports, context, cursors, world, world.happened⟩

/-- A facade with a factory and a handler around a scripted context. -/
theorem facade_transparent_of_scripted :
    let core : ScriptedContext :=
      { name := "dc=x", entries := [.ok ⟨"cn=a", "cn=a,dc=x", .empty⟩], ldap := true }
    let calls : List Call := [.perform (.bind "cn=b" .empty),
      .perform (.search "" Filter.matchAll (SearchControls.ofScope .subtree)), .cursor 0 .next,
      .perform (.newInstance []), .perform (.reconnect []), .cursor 0 .close]
    let w : World (Context ScriptedContext) := { network := .isolated }
    let direct : List (Report ScriptedContext CloseHandler SearchResult) × Caller _ _ _ :=
      run { context := .plain core, world := w } calls
    let facade : List (Report ScriptedContext CloseHandler SearchResult) × Caller _ _ _ :=
      run { context := .managed (.plain core) (some .intoPool) (some (.named "own")), world := w }
        calls
    facade.1 = List.zipWith (Report.behind (some (.named "own"))) calls direct.1 ∧
      facade.2.context = .managed direct.2.context (some .intoPool) (some (.named "own")) ∧
      facade.2.cursors = direct.2.cursors.map (Cursor.under (some (.named "own"))) ∧
      World.Alike facade.2.world direct.2.world ∧
      facade.2.world.events.map Event.what = direct.2.world.events.map Event.what :=
  facade_transparent ScriptedContext.slotBlind _ _ _ _ _

/-- Whatever the backend, the calls that get through a facade are the calls that are made without
it, with their arguments and in their order. -/
theorem same_calls_noted (blind : SlotBlind ℓ) (inner : Context (Noted ℓ) η)
    (handler : Option η) (factory : Option SocketFactory) (w : World (Context (Noted ℓ) η))
    (calls : List Call) :
    let direct : List (Report (Noted ℓ) η α) × Caller (Noted ℓ) (Noted γ) η :=
      run { context := inner, world := w } calls
    let facade : List (Report (Noted ℓ) η α) × Caller (Noted ℓ) (Noted γ) η :=
      run { context := .managed inner handler factory, world := w } calls
    facade.2.world.events.map Event.what = direct.2.world.events.map Event.what :=
  (run_behind (Noted.slotBlind blind) calls ⟨rfl, rfl, .refl w⟩).2.world.happened

end Caller

end ManagedLdap
