/-
# ManagedLdap.Proofs.Secrecy.Cursor -- pulling under a veil

A cursor wraps a bare one in socket factories, and pulling puts each of them in scope and asks
the bare one.  So a cursor leads the same way under a veil when its bare one does, which
`ObliviousSource` says of a type of them: the lists at hand and the scripted cursors here, and the
searches over a connection where they are.
-/
import ManagedLdap.Proofs.Secrecy.Veil

namespace ManagedLdap

set_option autoImplicit false

open Act

variable {α β γ κ ρ σ τ : Type} [Veilable κ] {v : Veil}

/-! ## Scopes and wrappers -/

theorem World.cover_inScope [Veilable ρ] {run run' : World κ → ρ × World κ}
    (same : ∀ w, run' (v.cover w) = v.cover (run w)) (factory : Option SocketFactory)
    (w : World κ) :
    (v.cover w).inScope factory run' = v.cover (w.inScope factory run) := by
  have inside : run' { v.cover w with slot := factory.or (v.cover w).slot } =
      v.cover (run { w with slot := factory.or w.slot }) :=
    same { w with slot := factory.or w.slot }
  rw [World.inScope_eq, World.inScope_eq]
  simp only [inside]
  rfl

theorem Act.cover_wrapped [Veilable α] [Veilable σ] [Veilable τ] (wrap : τ → σ)
    (same : ∀ t, wrap (v.cover t) = v.cover (wrap t)) {x y : Act κ τ α}
    (oblivious : Oblivious v Any x y) (t : τ) (w : World κ) :
    wrapped wrap (v.cover t) y (v.cover w) = v.cover (wrapped wrap t x w) := by
  unfold wrapped
  rw [(oblivious t w trivial).2]
  exact congrArg (fun s => (v.cover (x t w).1, s, v.cover (x t w).2.2)) (same _)

/-! ## Sources -/

/-- What a source does is not up to the passwords around it. -/
class ObliviousSource (γ : Type) {α : outParam Type} [Source γ α] [Veilable γ] [Unveiled α] :
    Prop where
  hasMore : ∀ (v : Veil) {κ : Type} [Veilable κ],
    Oblivious v Any (Source.hasMore : Act κ γ Bool) Source.hasMore
  next : ∀ (v : Veil) {κ : Type} [Veilable κ],
    Oblivious v Any (Source.next : Act κ γ (Option α)) Source.next
  close : ∀ (v : Veil) {κ : Type} [Veilable κ],
    Oblivious v Any (Source.close : Act κ γ Unit) Source.close
  discard : ∀ (v : Veil) {κ : Type} [Veilable κ] (c : γ) (w : World κ),
    Source.discard (v.cover c) (v.cover w) = v.cover (Source.discard c w)
  remaining : ∀ (v : Veil) {κ : Type} [Veilable κ] (c : γ) (w : World κ),
    Source.remaining (v.cover c) (v.cover w) = Source.remaining c w

instance [Unveiled α] : ObliviousSource (List α) where
  hasMore v _ := Oblivious.withSelf fun items _ => by
    rw [Unveiled.cover_eq]
    exact Oblivious.retSame _
  next v _ := Oblivious.withSelf fun items _ => by
    rw [Unveiled.cover_eq]
    exact Oblivious.changing (fun items => by simp only [Unveiled.cover_eq]) (Oblivious.retSame _)
  close v _ := Oblivious.update (fun _ _ => trivial) fun _ => rfl
  discard _ _ _ _ _ := rfl
  remaining v _ _ items _ := congrArg List.length (Unveiled.cover_eq v items)

/-! ### Scripted cursors -/

instance [Veilable α] : Veilable (ScriptedCursor α) where
  cover v c := { items := v.cover c.items, closeFailure := v.cover c.closeFailure }

namespace ScriptedCursor

variable [Unveiled α]

theorem cover_items (v : Veil) (c : ScriptedCursor α) : (v.cover c).items = v.cover c.items := rfl

theorem cover_closeFailure (v : Veil) (c : ScriptedCursor α) :
    (v.cover c).closeFailure = v.cover c.closeFailure := rfl

/-- An answer is taken away from under the veil as from elsewhere. -/
theorem advancing {x y : Act κ (ScriptedCursor α) β} [Veilable β] (next : Oblivious v Any x y) :
    Oblivious v Any (advance >>= fun _ => x) (advance >>= fun _ => y) :=
  Oblivious.changing (fun c => congrArg (fun items => (⟨items, _⟩ : ScriptedCursor α))
    (cover_drop 1 c.items)) next

theorem hasMore_oblivious : Oblivious v Any (hasMore : Act κ (ScriptedCursor α) Bool) hasMore := by
  refine Oblivious.bindSame (Oblivious.record _) fun _ => Oblivious.withSelf fun c _ => ?_
  rw [cover_items]
  cases c.items with
  | nil => exact Oblivious.retSame false
  | cons item rest =>
      cases item with
      | ok a => exact Oblivious.retSame true
      | error failure => exact advancing (Oblivious.failWith failure)

theorem next_oblivious : Oblivious v Any (next : Act κ (ScriptedCursor α) (Option α)) next := by
  refine Oblivious.bindSame (Oblivious.record _) fun _ => Oblivious.withSelf fun c _ => ?_
  rw [cover_items]
  cases c.items with
  | nil => exact Oblivious.retSame none
  | cons item rest =>
      cases item with
      | ok a => exact advancing (Oblivious.ret (some a))
      | error failure => exact advancing (Oblivious.failWith failure)

theorem close_oblivious : Oblivious v Any (close : Act κ (ScriptedCursor α) Unit) close := by
  refine Oblivious.bindSame (Oblivious.record _) fun _ => Oblivious.withSelf fun c _ => ?_
  refine Oblivious.changing (fun _ => rfl) ?_
  rw [cover_closeFailure]
  cases c.closeFailure with
  | none => exact Oblivious.retSame ()
  | some failure => exact Oblivious.failWith failure

instance : ObliviousSource (ScriptedCursor α) where
  hasMore _ _ _ := hasMore_oblivious
  next _ _ _ := next_oblivious
  close _ _ _ := close_oblivious
  discard _ _ _ _ _ := rfl
  remaining _ _ _ _ _ := List.length_map ..

end ScriptedCursor

/-! ### Two sources side by side -/

section Either

variable {τ₁ τ₂ γ₁ γ₂ : Type} [Veilable τ₁] [Veilable τ₂] [Veilable γ₁] [Veilable γ₂]

theorem Act.Oblivious.either [Veilable α] {x x' : Act κ τ₁ α} {y y' : Act κ τ₂ α}
    (left : Oblivious v Any x x') (right : Oblivious v Any y y') :
    Oblivious v Any (Act.either x y) (Act.either x' y') := by
  rintro s w -
  refine ⟨trivial, ?_⟩
  cases s with
  | inl s => exact cover_wrapped Sum.inl (fun _ => rfl) left s w
  | inr s => exact cover_wrapped Sum.inr (fun _ => rfl) right s w

instance [Unveiled α] [Source γ₁ α] [Source γ₂ α] [ObliviousSource γ₁] [ObliviousSource γ₂] :
    ObliviousSource (γ₁ ⊕ γ₂) where
  hasMore v _ _ := .either (ObliviousSource.hasMore v) (ObliviousSource.hasMore v)
  next v _ _ := .either (ObliviousSource.next v) (ObliviousSource.next v)
  close v _ _ := .either (ObliviousSource.close v) (ObliviousSource.close v)
  discard v _ _ c w := by
    cases c with
    | inl c => exact ObliviousSource.discard v c w
    | inr c => exact ObliviousSource.discard v c w
  remaining v _ _ c w := by
    cases c with
    | inl c => exact ObliviousSource.remaining v c w
    | inr c => exact ObliviousSource.remaining v c w

end Either

/-! ## Cursors -/

namespace Cursor

/-- The same factories around another bare cursor. -/
def mapCore (f : γ → γ) : Cursor γ → Cursor γ
  | .bare c => .bare (f c)
  | .under factory inner => .under factory (mapCore f inner)

instance [Veilable γ] : Veilable (Cursor γ) := ⟨fun v => mapCore v.cover⟩

variable [Veilable γ]

theorem cover_core (v : Veil) (c : Cursor γ) : (v.cover c).core = v.cover c.core := by
  induction c with
  | bare c => rfl
  | under factory inner ih => exact ih

theorem pull_oblivious [Veilable β] {x y : Act κ γ β} (oblivious : Oblivious v Any x y) :
    Oblivious v Any (pull x) (pull y) := by
  rintro c w -
  refine ⟨trivial, ?_⟩
  induction c generalizing w with
  | bare c => exact cover_wrapped Cursor.bare (fun _ => rfl) oblivious c w
  | under factory inner ih =>
      have inside : ∀ w : World κ,
          (match pull y (v.cover inner) (v.cover w) with | (r, inner, w) => ((r, inner), w)) =
            v.cover (match pull x inner w with | (r, inner, w) => ((r, inner), w)) := by
        intro w
        rw [ih w]
        rfl
      change (match (v.cover w).inScope factory fun w =>
        match pull y (v.cover inner) w with | (r, inner, w) => ((r, inner), w) with
        | ((r, inner), w) => (r, Cursor.under factory inner, w)) = _
      rw [World.cover_inScope inside]
      rfl

theorem reach_oblivious [Veilable β] {x y : Act κ γ β} (oblivious : Oblivious v Any x y) :
    Oblivious v Any (reach x) (reach y) := by
  rintro c w -
  refine ⟨trivial, ?_⟩
  induction c generalizing w with
  | bare c => exact cover_wrapped Cursor.bare (fun _ => rfl) oblivious c w
  | under factory inner ih =>
      change (match reach y (v.cover inner) (v.cover w) with
        | (r, inner, w) => (r, Cursor.under factory inner, w)) = _
      rw [ih w]
      rfl

variable [Unveiled α] [Source γ α] [ObliviousSource γ]

theorem hasMore_oblivious : Oblivious v Any (hasMore : Act κ (Cursor γ) Bool) hasMore :=
  pull_oblivious (ObliviousSource.hasMore v)

theorem next_oblivious : Oblivious v Any (next : Act κ (Cursor γ) (Option α)) next :=
  pull_oblivious (ObliviousSource.next v)

theorem close_oblivious : Oblivious v Any (close : Act κ (Cursor γ) Unit) close :=
  reach_oblivious (ObliviousSource.close v)

theorem cover_discard (c : Cursor γ) (w : World κ) :
    (v.cover c).discard (v.cover w) = v.cover (c.discard w) := by
  unfold discard
  rw [cover_core]
  exact ObliviousSource.discard v c.core w

theorem collectUpTo_oblivious (n : Nat) :
    Oblivious v Any (collectUpTo n : Act κ (Cursor γ) (List α × Option Failure))
      (collectUpTo n) := by
  induction n with
  | zero => exact Oblivious.retFixed rfl
  | succ n ih =>
      refine Oblivious.bind (Oblivious.outcome next_oblivious) fun pulled => ?_
      rcases pulled with failure | _ | a
      · exact Oblivious.ret ([], some failure)
      · exact Oblivious.retFixed rfl
      · exact Oblivious.bind ih fun found => Oblivious.ret (a :: found.1, found.2)

/-- How far a cursor is collected depends on no password either. -/
theorem collect_oblivious :
    Oblivious v Any (collect : Act κ (Cursor γ) (List α × Option Failure)) collect := by
  rintro c w -
  refine ⟨trivial, ?_⟩
  have bound : Source.remaining (v.cover c).core (v.cover w) = Source.remaining c.core w := by
    rw [cover_core]
    exact ObliviousSource.remaining v c.core w
  unfold collect
  rw [bound]
  exact (collectUpTo_oblivious _ c w trivial).2

end Cursor

end ManagedLdap
