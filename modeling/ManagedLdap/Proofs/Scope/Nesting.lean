/-
# ManagedLdap.Proofs.Scope.Nesting -- calls inside calls that lend a factory

A facade lends its socket factory for the time of a call, a cursor inside a scope for the time of
a pull, and a factory of contexts while it connects.  What runs meanwhile may open sockets, and may
make such calls of its own on other facades and cursors, which lend what they have.

A `Course` is the way of a callee through the world, with a record of its `ScopeDeed`s: sockets it
opened, each with what was in the slot then, and complete calls, each with the deeds of its own
callee.  The calls are those of the library (`Lending`), and so are the attempts to connect.

The slot does not remember.  When a call inside ends that lent a factory, it empties the slot
although the call around it goes on, so `lent_until_given_up` says what the lent factory is worth:
a socket finds it as long as nothing before it lent a factory, at any depth, and from then on it
finds nothing.  It never finds the factory of another call.  `nested_call_strips` is a run in which
a connection is opened without any factory for this reason, inside a call that lends one.
-/
import ManagedLdap.Proofs.Facade.HandOff
import ManagedLdap.Proofs.Facade.Slot

namespace ManagedLdap

set_option autoImplicit false

variable {ℓ γ η : Type}

/-! ## What a callee does -/

/-- What a callee did about sockets. -/
inductive ScopeDeed where
  /-- It opened a socket itself, with this in the slot. -/
  | opened (slot : Slot)
  /-- It made a call that lent a factory, or none, to a callee of its own, which did this. -/
  | called (factory : Option SocketFactory) (inner : List ScopeDeed)

mutual

/-- Whether a factory was lent, and given up again, in the course of a deed. -/
def ScopeDeed.givesUp : ScopeDeed → Bool
  | .opened _ => false
  | .called factory inner => factory.isSome || ScopeDeed.givenUp inner

/-- Whether a factory was lent, and given up again, in the course of some deeds. -/
def ScopeDeed.givenUp : List ScopeDeed → Bool
  | [] => false
  | deed :: rest => deed.givesUp || ScopeDeed.givenUp rest

end

section Courses

variable [Backend ℓ γ] [Handling ℓ η]

/-- A call that lends `factory`, made in the world `w`: its callee goes from `v` to `v'`, and the
call ends in `u`. -/
inductive Lending : Option SocketFactory → (w v v' u : World (Context ℓ η)) → Prop
  /-- A facade reconnects, opens an initial context or follows a referral. -/
  | facade {σ : Type} {k : FacadeCall ℓ η σ} {c : Context ℓ η} {x : Act (Context ℓ η) σ Unit}
      (facade : c.isManaged) (lends : k.lends) (reached : k.reach c = .callee x) (s : σ)
      (w : World (Context ℓ η)) :
      Lending (k.lent c) w { w with slot := (k.lent c).or w.slot }
        (x s { w with slot := (k.lent c).or w.slot }).2.2 (k.run c s w).2.2
  /-- A cursor inside a scope is pulled. -/
  | pull {δ β : Type} (x : Act (Context ℓ η) δ β) (factory : Option SocketFactory)
      (inner : Cursor δ) (w : World (Context ℓ η)) :
      Lending factory w { w with slot := factory.or w.slot }
        (Cursor.pull x inner { w with slot := factory.or w.slot }).2.2
        (Cursor.pull x (.under factory inner) w).2.2
  /-- A block runs in a scope, as a factory of contexts connects. -/
  | block {σ β : Type} (x : Act (Context ℓ η) σ β) (factory : Option SocketFactory) (s : σ)
      (w : World (Context ℓ η)) :
      Lending factory w { w with slot := factory.or w.slot }
        (x s { w with slot := factory.or w.slot }).2.2 (Act.under factory x s w).2.2

/-- The way of a callee from one world to another, and its deeds on the way. -/
inductive Course : List ScopeDeed → (w w' : World (Context ℓ η)) → Prop
  | done (w : World (Context ℓ η)) : Course [] w w
  /-- Whatever connects to nobody. -/
  | aside {n : Nat} {deeds : List ScopeDeed} {w v w' : World (Context ℓ η)}
      (quiet : World.Undialled n w v) (rest : Course deeds v w') : Course deeds w w'
  /-- One attempt to connect, which takes what is in the slot. -/
  | opens {deeds : List ScopeDeed} {w v w' : World (Context ℓ η)}
      (dialled : World.Dialled [w.slot] w v) (rest : Course deeds v w') :
      Course (.opened w.slot :: deeds) w w'
  /-- A complete call. -/
  | calls {factory : Option SocketFactory} {inner deeds : List ScopeDeed}
      {w v v' u w' : World (Context ℓ η)} (call : Lending factory w v v' u)
      (within : Course inner v v') (rest : Course deeds u w') :
      Course (.called factory inner :: deeds) w w'

variable {factory : Option SocketFactory} {deeds : List ScopeDeed}
  {w v v' u w' : World (Context ℓ η)}

/-- The callee of a call finds what the call lends, or else what was there; and a factory that was
lent is gone when the call ends. -/
theorem Lending.slots (call : Lending factory w v v' u) :
    v.slot = factory.or w.slot ∧ u.slot = if factory.isSome then none else v'.slot := by
  cases call with
  | @facade σ k c x facade lends reached s w =>
      refine ⟨rfl, ?_⟩
      simp only [k.run_eq facade, reached, FacadeCall.finish, FacadeCall.conclude_slot]
  | pull x factory inner w =>
      simp only [Cursor.pull, World.inScope_eq, and_self]
  | block x factory s w =>
      simp only [Act.under_eq, and_self]

/-- A course leaves the slot as it was, or empty once a factory was given up; and so it finds the
slot wherever it opens a socket. -/
theorem Course.slots (course : Course deeds w w') :
    w'.slot = (if ScopeDeed.givenUp deeds then none else w.slot) ∧
      ∀ before slot after, deeds = before ++ .opened slot :: after →
        slot = if ScopeDeed.givenUp before then none else w.slot := by
  induction course with
  | done w => exact ⟨rfl, fun before _ _ split => by cases before <;> cases split⟩
  | aside quiet rest ih => rwa [quiet.slot] at ih
  | opens dialled rest ih =>
      rw [dialled.slot] at ih
      refine ⟨ih.1, ?_⟩
      rintro (_ | ⟨deed, before⟩) slot after split
      · exact (ScopeDeed.opened.inj (List.cons.inj split).1).symm
      · obtain ⟨rfl, tail⟩ := List.cons.inj split
        exact ih.2 before slot after tail
  | @calls factory inner deeds w v v' u w' call within rest ihWithin ih =>
      have left : u.slot = if (ScopeDeed.called factory inner).givesUp then none else w.slot := by
        obtain ⟨lent, left⟩ := call.slots
        rw [left, ihWithin.1, lent, ScopeDeed.givesUp]
        cases factory <;> rfl
      -- Once the call has emptied the slot, it stays empty.
      have emptied (given : Bool) : (if given then none else u.slot) =
          if (ScopeDeed.called factory inner).givesUp || given then none else w.slot := by
        rw [left]
        cases given <;> cases (ScopeDeed.called factory inner).givesUp <;> rfl
      refine ⟨ih.1.trans (emptied _), ?_⟩
      rintro (_ | ⟨deed, before⟩) slot after split
      · cases (List.cons.inj split).1
      · obtain ⟨rfl, tail⟩ := List.cons.inj split
        exact (ih.2 before slot after tail).trans (emptied _)

namespace Lending

/-- **What a call lends is found until something inside has given up a factory.**  A callee opens
sockets and makes complete calls that lend factories, or none, to callees of their own.  Each
socket that it opens itself finds the factory that its own call lent, or what was there when that
lent none, as long as no call before it lent a factory or had one lent inside; and after such a
call it finds nothing. -/
theorem lent_until_given_up (call : Lending factory w v v' u) (course : Course deeds v v') :
    ∀ before slot after, deeds = before ++ .opened slot :: after →
      slot = if ScopeDeed.givenUp before then none else factory.or w.slot := by
  rw [← call.slots.1]
  exact course.slots.2

end Lending

end Courses

/-! ## A factory that is stripped -/

namespace Lending

/-- Open a context with nothing around it. -/
def opening : Act (Context LdapDirContext) Unit LdapDirContext :=
  LdapConfig.initialContext { host := "localhost" }

/-- A facade with a factory of its own. -/
def facadeOf (factory : SocketFactory) : Context LdapDirContext :=
  .managed (.plain ⟨none, "", "", { host := "localhost" }, ⟨"", ""⟩, .empty, [], [], []⟩) none
    (some factory)

/-- A factory of initial contexts that tries a connection of its own, has another facade open one,
and then opens the context. -/
def openingThrice (other : Context LdapDirContext) :
    Act (Context LdapDirContext) Unit (Context LdapDirContext) := do
  let _ ← Act.outcome opening
  let _ ← Act.outcome (other.openFor opening)
  .plain <$> opening

/-- A facade lends its factory to a factory of initial contexts, which has another facade open a
connection before it opens the last one: that one is opened without any factory. -/
theorem nested_call_strips :
    let c := facadeOf (.named "own")
    let k : FacadeCall LdapDirContext CloseHandler Unit :=
      .initial (openingThrice (facadeOf (.named "other")))
    let w : World (Context LdapDirContext) := { network := .loopback [⟨"localhost:389", []⟩] }
    k.lent c = some (.named "own") ∧
      (k.run c () w).2.2.network.dials.map Dial.factory =
        [some (.named "own"), some (.named "other"), none] := by
  decide +kernel

theorem opening_dials (w : World (Context LdapDirContext)) :
    World.Dialled [w.slot] w (opening () w).2.2 :=
  LdapDirContext.openAt_dials _ _ _ _ _ _ () w

/-- The same run, deed by deed. -/
theorem lent_until_given_up_of_three :
    let c := facadeOf (.named "own")
    let other := facadeOf (.named "other")
    let k : FacadeCall LdapDirContext CloseHandler Unit := .initial (openingThrice other)
    let w : World (Context LdapDirContext) := { network := .loopback [⟨"localhost:389", []⟩] }
    let v := { w with slot := some (.named "own") }
    let v' := (openingThrice other () v).2.2
    let deeds : List ScopeDeed := [.opened (some (.named "own")),
      .called (some (.named "other")) [.opened (some (.named "other"))], .opened none]
    Lending (some (.named "own")) w v v' (k.run c () w).2.2 ∧ Course deeds v v' ∧
      ∀ before slot after, deeds = before ++ .opened slot :: after →
        slot = if ScopeDeed.givenUp before then none else some (.named "own") := by
  intro c other k w v v' deeds
  have call : Lending (some (.named "own")) w v v' (k.run c () w).2.2 :=
    .facade (k := k) (c := c) rfl rfl rfl () w
  let v₁ := (opening () v).2.2
  let lent := { v₁ with slot := some (.named "other") }
  let v₂ := (other.openFor opening () v₁).2.2
  have inside : Lending (some (.named "other")) v₁ lent (opening () lent).2.2 v₂ :=
    .facade (k := .initial (.plain <$> opening)) (c := other) rfl rfl rfl () v₁
  have course : Course deeds v v' :=
    .opens (opening_dials v) (.calls inside (.opens (opening_dials lent) (.done _))
      (.opens (opening_dials v₂) (.done _)))
  exact ⟨call, course, call.lent_until_given_up course⟩

end Lending

end ManagedLdap
