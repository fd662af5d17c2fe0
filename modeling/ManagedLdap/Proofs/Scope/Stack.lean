/-
# ManagedLdap.Proofs.Scope.Stack -- a cursor inside any number of scopes

A search cursor that came through several facades is a bare cursor inside as many scopes, each
with a socket factory or without one.  The scopes of a thread share one slot, and a scope that
ends empties it instead of putting back what was there, so what the bare cursor finds and what
its holder is left with are not the same for every scope, nor for every call.

`outcome_eq` is one call of such a stack, exactly: the bare cursor is called once; a pull finds
the factory of the innermost scope that has one, or what was in the slot when there is none, and
closing finds the slot as it was; and the slot is empty after a pull as soon as one of the scopes
has a factory.  Nothing is asked of the bare cursor for this.  `series_eq` is the same for calls in
any number and order, each made with anything in the slot.

A bare cursor is `Indifferent` when the slot does not matter to what it returns and it does not
write the slot.  Then the holder of the stack gets what the bare cursor returns when it is called
directly (`stack_transparent`).
-/
import ManagedLdap.Proofs.Facade.Transparent
import ManagedLdap.Session.Pulls

namespace ManagedLdap

set_option autoImplicit false

variable {κ σ β γ α ι : Type}

/-! ## Scopes around a cursor -/

namespace Cursor

/-- The socket factory of the innermost scope that has one. -/
def innermost? : Cursor γ → Option SocketFactory
  | .bare _ => none
  | .under factory inner => inner.innermost?.or factory

/-- The same scopes around another bare cursor. -/
def around (c : γ) : Cursor γ → Cursor γ
  | .bare _ => .bare c
  | .under factory inner => .under factory (inner.around c)

@[simp] theorem core_around (c : γ) (cursor : Cursor γ) : (cursor.around c).core = c := by
  induction cursor with
  | bare _ => rfl
  | under factory inner ih => exact ih

@[simp] theorem innermost?_around (c : γ) (cursor : Cursor γ) :
    (cursor.around c).innermost? = cursor.innermost? := by
  induction cursor with
  | bare _ => rfl
  | under factory inner ih => exact congrArg (·.or factory) ih

@[simp] theorem around_around (c d : γ) (cursor : Cursor γ) :
    (cursor.around c).around d = cursor.around d := by
  induction cursor with
  | bare _ => rfl
  | under factory inner ih => exact congrArg (Cursor.under factory) ih

@[simp] theorem around_core (cursor : Cursor γ) : cursor.around cursor.core = cursor := by
  induction cursor with
  | bare _ => rfl
  | under factory inner ih => exact congrArg (Cursor.under factory) ih

/-- A pull is one pull of the bare cursor, which finds the innermost factory. -/
theorem pull_eq (x : Act κ γ β) (cursor : Cursor γ) (w : World κ) :
    Cursor.pull x cursor w =
      let y := x cursor.core { w with slot := cursor.innermost?.or w.slot }
      (y.1, cursor.around y.2.1,
        { y.2.2 with slot := if cursor.innermost?.isSome then none else y.2.2.slot }) := by
  induction cursor generalizing w with
  | bare c => rfl
  | under factory inner ih =>
      simp only [pull, World.inScope_eq, ih, core, innermost?, around, Option.or_assoc]
      -- The outer scope empties what the inner ones may have left.
      cases factory <;> cases inner.innermost? <;> rfl

/-- Closing reaches the bare cursor through the scopes, none of which begins. -/
theorem reach_eq (x : Act κ γ β) (cursor : Cursor γ) (w : World κ) :
    Cursor.reach x cursor w =
      let y := x cursor.core w
      (y.1, cursor.around y.2.1, y.2.2) := by
  induction cursor with
  | bare c => rfl
  | under factory inner ih =>
      simp only [reach, ih]
      rfl

/-- What a pull returns can be changed where the bare cursor returns it. -/
theorem map_pull {δ : Type} {x : Act κ γ β} {y : Act κ (Cursor γ) β}
    (pulls : ∀ cursor w, y cursor w = Cursor.pull x cursor w) (f : β → δ) (cursor : Cursor γ)
    (w : World κ) : (f <$> y) cursor w = Cursor.pull (f <$> x) cursor w := by
  rw [Act.map_apply, pulls, pull_eq, pull_eq, Act.map_apply]

theorem map_reach {δ : Type} {x : Act κ γ β} {y : Act κ (Cursor γ) β}
    (reaches : ∀ cursor w, y cursor w = Cursor.reach x cursor w) (f : β → δ) (cursor : Cursor γ)
    (w : World κ) : (f <$> y) cursor w = Cursor.reach (f <$> x) cursor w := by
  rw [Act.map_apply, reaches, reach_eq, reach_eq, Act.map_apply]

/-! ## One call -/

/-- A call of a cursor by whoever holds it. -/
inductive Use where
  | hasMore
  | next
  /-- The next element of an iteration. -/
  | iterate
  | close
  deriving DecidableEq

/-- What the bare cursor finds in the slot when the stack is called with `slot` in it. -/
def finds (cursor : Cursor γ) (use : Use) (slot : Slot) : Slot :=
  if use = .close then slot else cursor.innermost?.or slot

/-- What is in the slot after a call, if the bare cursor left `slot` in it. -/
def leaves (cursor : Cursor γ) (use : Use) (slot : Slot) : Slot :=
  if use = .close then slot else if cursor.innermost?.isSome then none else slot

/-- What a call finds in the slot is what was there, or is gone then. -/
theorem leaves_finds (cursor : Cursor γ) (use : Use) (slot : Slot) :
    cursor.leaves use (cursor.finds use slot) = cursor.leaves use slot := by
  unfold leaves finds
  by_cases closes : use = .close
  · simp only [closes, if_true]
  · cases cursor.innermost? <;> simp [closes]

namespace Use

/-- The call of a stack of scopes. -/
def pull : Use → Pull
  | .hasMore => .hasMore
  | .next => .next
  | .iterate => .iterate
  | .close => .close

variable [Source γ α]

/-- The call of a bare cursor.  It has no iteration of its own: the element of an iteration is its
next element, and the end of the iteration is where there is none. -/
def ofBare : Use → Act κ γ (PullOutcome α)
  | .hasMore => .more <$> Source.hasMore
  | .next => .next <$> Source.next
  | .iterate => .iterated <$> Source.next
  | .close => (fun _ => .closed) <$> Source.close

/-- Whatever is pulled from a stack of scopes is pulled from the bare cursor. -/
theorem outcome_pull (held : γ → List α) {use : Use} (pulls : use ≠ .close) (cursor : Cursor γ)
    (w : World κ) : use.pull.outcome held cursor w = Cursor.pull use.ofBare cursor w := by
  cases use with
  | hasMore => exact map_pull (fun _ _ => rfl) _ cursor w
  | next => exact map_pull (fun _ _ => rfl) _ cursor w
  | iterate => exact map_pull (fun _ _ => rfl) _ cursor w
  | close => exact absurd rfl pulls

theorem outcome_close (held : γ → List α) (cursor : Cursor γ) (w : World κ) :
    Pull.close.outcome held cursor w = Cursor.reach (ofBare .close) cursor w := by
  rw [Pull.outcome, bind_pure_comp]
  exact map_reach (fun _ _ => rfl) _ cursor w

/-- One call of a stack of scopes. -/
theorem outcome_eq (held : γ → List α) (use : Use) (cursor : Cursor γ) (w : World κ) :
    use.pull.outcome held cursor w =
      let y := use.ofBare cursor.core { w with slot := cursor.finds use w.slot }
      (y.1, cursor.around y.2.1, { y.2.2 with slot := cursor.leaves use y.2.2.slot }) := by
  by_cases closes : use = .close
  · subst closes
    exact (outcome_close held cursor w).trans (reach_eq _ cursor w)
  · simp only [outcome_pull held closes, pull_eq, finds, leaves, closes, if_false]

end Use

end Cursor

/-! ## Any number of calls -/

/-- Calls of an object, one after the other, each made with something of its own in the slot: what
each of them returned and what it left in the slot. -/
def Act.series (x : ι → Act κ σ β) :
    List (ι × Slot) → σ → World κ → List (Except Failure β × Slot) × σ × World κ
  | [], s, w => ([], s, w)
  | call :: rest, s, w =>
      let y := x call.1 s { w with slot := call.2 }
      let z := series x rest y.2.1 y.2.2
      ((y.1, y.2.2.slot) :: z.1, z.2)

namespace Cursor

variable [Source γ α]

/-- What `calls` come to for the bare cursor of a stack: the same calls, each with what is found
then. -/
def inward (cursor : Cursor γ) (calls : List (Use × Slot)) : List (Use × Slot) :=
  calls.map fun call => (call.1, cursor.finds call.1 call.2)

theorem inward_uses (cursor : Cursor γ) (calls : List (Use × Slot)) :
    (cursor.inward calls).map Prod.fst = calls.map Prod.fst := by
  simp only [inward, List.map_map, Function.comp_def]

/-- Calls of a stack are calls of its bare cursor. -/
theorem series_eq (held : γ → List α) (calls : List (Use × Slot)) (cursor : Cursor γ)
    (w : World κ) (slot : Slot) :
    let run := Act.series (fun use : Use => use.pull.outcome held) calls cursor
      { w with slot := slot }
    let bare := Act.series Use.ofBare (cursor.inward calls) cursor.core w
    run.1.map Prod.fst = bare.1.map Prod.fst ∧
      run.1.map Prod.snd =
        List.zipWith cursor.leaves (calls.map Prod.fst) (bare.1.map Prod.snd) ∧
      run.2.1 = cursor.around bare.2.1 ∧
      run.2.2 = { bare.2.2 with slot := run.2.2.slot } := by
  -- `slot` is what the stack left behind where the bare cursor may have left something else.
  induction calls generalizing cursor w slot with
  | nil => exact ⟨rfl, rfl, cursor.around_core.symm, rfl⟩
  | cons call rest ih =>
      let y := call.1.ofBare (α := α) cursor.core { w with slot := cursor.finds call.1 call.2 }
      obtain ⟨results, slots, object, world⟩ :=
        ih (cursor.around y.2.1) y.2.2 (cursor.leaves call.1 y.2.2.slot)
      have inward : (cursor.around y.2.1).inward rest = cursor.inward rest := by
        simp only [Cursor.inward, finds, innermost?_around]
      have leaves : (cursor.around y.2.1).leaves = cursor.leaves := by
        funext use slot
        simp only [Cursor.leaves, innermost?_around]
      simp only [inward, leaves, core_around, around_around] at results slots object world
      simp only [Act.series, Use.outcome_eq, Cursor.inward, List.map_cons, List.zipWith_cons_cons]
      exact ⟨congrArg _ results, congrArg _ slots, object, world⟩

/-! ## Cursors that the slot does not matter to -/

/-- Whatever calls are made of a bare cursor, what they return does not depend on what is in the
slot at each of them, and each leaves in the slot what was there. -/
structure Indifferent (c : γ) (w : World κ) : Prop where
  results : ∀ calls calls' : List (Use × Slot), calls.map Prod.fst = calls'.map Prod.fst →
    (Act.series Use.ofBare calls c w).1.map Prod.fst =
      (Act.series Use.ofBare calls' c w).1.map Prod.fst
  slots : ∀ calls : List (Use × Slot),
    (Act.series Use.ofBare calls c w).1.map Prod.snd = calls.map Prod.snd

/-- A cursor whose calls neither look at the slot nor write it is such a cursor. -/
theorem Indifferent.of_blind
    (blind : ∀ use : Use, (use.ofBare : Act κ γ (PullOutcome α)).SlotBlind)
    (keeps : ∀ (use : Use) (c : γ) (w : World κ),
      ((use.ofBare : Act κ γ (PullOutcome α)) c w).2.2.slot = w.slot)
    (c : γ) (w : World κ) : Indifferent c w where
  results calls calls' same := by
    -- The two runs go through worlds that differ in the slot only.
    suffices alike : ∀ w', World.Alike w w' →
        (Act.series Use.ofBare calls c w).1.map Prod.fst =
          (Act.series Use.ofBare calls' c w').1.map Prod.fst from alike w (.refl w)
    intro w' alike
    induction calls generalizing calls' c w w' with
    | nil =>
        obtain rfl := List.map_eq_nil_iff.1 same.symm
        rfl
    | cons call rest ih =>
        obtain ⟨call', rest', rfl⟩ := List.exists_cons_of_ne_nil (l := calls')
          fun empty => by simp [empty] at same
        obtain ⟨use, same⟩ := List.cons.inj same
        obtain ⟨result, object, world⟩ :=
          blind call.1 c { w with slot := call.2 } { w' with slot := call'.2 } alike
        simp only [Act.series, List.map_cons, ← use, ← object, ← result]
        exact congrArg _ (ih _ _ _ same _ world)
  slots calls := by
    induction calls generalizing c w with
    | nil => rfl
    | cons call rest ih =>
        simp only [Act.series, List.map_cons, keeps]
        exact congrArg _ (ih _ _)

/-- **A stack of scopes is transparent.**  A cursor that the slot does not matter to is inside any
number of scopes, with factories or without.  Calls are made in any number and order, each with
anything in the slot.

* They return what the same calls of the bare cursor return, elements, ends and failures alike.
* After a pull, however it ends, the slot is empty if one of the scopes has a factory, and as it
  was before otherwise; closing leaves it as it was.
* All this is one call of the bare cursor for each, in which a pull finds the factory of the
  innermost scope that has one, and what was in the slot when there is none; closing finds what was
  in the slot.  The bare cursor and the world end up as they do from these calls. -/
theorem stack_transparent (held : γ → List α) (cursor : Cursor γ) {w : World κ}
    (indifferent : Indifferent cursor.core w) (calls : List (Use × Slot)) :
    let run := Act.series (fun use : Use => use.pull.outcome held) calls cursor w
    let direct := Act.series Use.ofBare calls cursor.core w
    let inside := Act.series Use.ofBare (cursor.inward calls) cursor.core w
    run.1.map Prod.fst = direct.1.map Prod.fst ∧
      run.1.map Prod.snd = calls.map (fun call => cursor.leaves call.1 call.2) ∧
      run.1.map Prod.fst = inside.1.map Prod.fst ∧
      run.2.1 = cursor.around inside.2.1 ∧
      run.2.2 = { inside.2.2 with slot := run.2.2.slot } := by
  intro run direct inside
  obtain ⟨results, slots, object, world⟩ := series_eq held calls cursor w w.slot
  refine ⟨results.trans (indifferent.results _ _ (cursor.inward_uses calls)), ?_, results, object,
    world⟩
  refine slots.trans ?_
  rw [indifferent.slots, inward, List.map_map, List.zipWith_map, List.zipWith_self]
  exact List.map_congr_left fun call _ => cursor.leaves_finds call.1 call.2

/-- A scripted cursor records what is in the slot but neither acts on it nor writes it. -/
theorem scripted_indifferent (c : ScriptedCursor SearchResult) (w : World κ) :
    Indifferent c w := by
  have blind := ScriptedContext.slotBlind
  refine .of_blind (fun use => ?_) (fun use c w => ?_) c w
  · cases use with
    | hasMore => exact blind.hasMore.map _
    | next => exact blind.next.map _
    | iterate => exact blind.next.map _
    | close => exact blind.close.map _
  · obtain ⟨items, closeFailure⟩ := c
    cases use with
    | close => cases closeFailure <;> rfl
    | _ => rcases items with _ | ⟨_ | _, _⟩ <;> rfl

/-- Three scopes around a cursor that panics once, and fails to close: the one in the middle has no
factory, and the innermost one is in effect. -/
theorem stack_transparent_of_scripted :
    let bare : ScriptedCursor SearchResult :=
      ⟨[.ok ⟨"cn=a", "cn=a,dc=x", .empty⟩, .error .panic], some (.error .closed)⟩
    let cursor : Cursor (ScriptedCursor SearchResult) :=
      .under (some (.named "outer")) (.under none (.under (some (.named "inner")) (.bare bare)))
    let w : World Empty := { network := .isolated }
    let calls : List (Use × Slot) := [(.next, none), (.hasMore, some (.named "other")),
      (.iterate, none), (.close, some (.named "other"))]
    let run := Act.series (fun use : Use => use.pull.outcome fun _ => []) calls cursor w
    let direct := Act.series Use.ofBare calls bare w
    let inside := Act.series Use.ofBare (cursor.inward calls) bare w
    run.1.map Prod.fst = direct.1.map Prod.fst ∧
      run.1.map Prod.snd = calls.map (fun call => cursor.leaves call.1 call.2) ∧
      run.1.map Prod.fst = inside.1.map Prod.fst ∧
      run.2.1 = cursor.around inside.2.1 ∧
      run.2.2 = { inside.2.2 with slot := run.2.2.slot } ∧
      calls.map (fun call => cursor.leaves call.1 call.2) =
        [none, none, none, some (.named "other")] ∧
      run.2.2.events.map Event.slot =
        [some (.named "inner"), some (.named "inner"), some (.named "inner"),
          some (.named "other")] := by
  intro bare cursor w calls run direct inside
  obtain ⟨results, slots, reached, object, world⟩ :=
    stack_transparent (fun _ => []) cursor (scripted_indifferent bare w) calls
  exact ⟨results, slots, reached, object, world, rfl, rfl⟩

end Cursor

end ManagedLdap
