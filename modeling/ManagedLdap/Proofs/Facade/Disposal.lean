/-
# ManagedLdap.Proofs.Facade.Disposal -- every facade gives its context up exactly once

An `Estate` is a family of facades that grew from one of them, through further instances and
followed referrals; calls are made on its members in any order.  The reports of the calls on one
member lead from the facade as it was made to what is left of it (`run_life`), and such a life
has one shape (`Life.once`): calls that keep the facade, with no part in them for any handler or
any closing; one that gives it up, which is the disposal of the very context that the calls
before it had left behind the facade; and after that calls that reach nobody.  So once all
members are dropped, each of them has disposed of its context exactly once
(`facades_dispose_once`).

Nothing is asked of the contexts, the handlers and the referrals: they answer, fail or panic as
they like.  The witness is the life of a context of this library under its own handler.
-/
import ManagedLdap.Ldap.Backend
import ManagedLdap.Proofs.Facade.Effect

namespace ManagedLdap

set_option autoImplicit false

/-! ## What was done to a facade -/

/-- A call that was made on the facade of that place: the facade and the world it found. -/
structure Report (ℓ η : Type) where
  place : Nat
  call : FacadeCall ℓ η Unit
  held : Context ℓ η
  before : World (Context ℓ η)

namespace Report

variable {ℓ γ η : Type}

/-- The reports on the facade of a place. -/
def reportsOn (i : Nat) (reports : List (Report ℓ η)) : List (Report ℓ η) :=
  reports.filter fun r => r.place = i

@[simp] theorem reportsOn_append (i : Nat) (xs ys : List (Report ℓ η)) :
    reportsOn i (xs ++ ys) = reportsOn i xs ++ reportsOn i ys :=
  List.filter_append xs ys

variable [backend : Backend ℓ γ] [handling : Handling ℓ η]

/-- What came of the call. -/
def effect (r : Report ℓ η) : Effect ℓ η := r.call.effect r.held r.before

/-- The call kept its facade, and it would have come to the same whatever close handlers do
and whatever closing a context or giving one up does. -/
structure Keeps (r : Report ℓ η) : Prop where
  kept : r.call.givesUp = false
  unaided : ∀ (close : {κ : Type} → Act κ ℓ Unit)
    (discard : {κ : Type} → ℓ → World κ → World κ) (others : Handling ℓ η),
    @effect ℓ γ η (Backend.closedBy close discard) others r = @effect ℓ γ η backend handling r

/-- The call gave its facade up, and what it came to is the disposal of that context: the
handler, if there is one, is given it, and otherwise it is closed.  If the facade was dropped,
an error is only reported. -/
structure Disposes (inner : Context ℓ η) (handler : Option η) (r : Report ℓ η) : Prop where
  gives : r.call.givesUp
  once :
    let x := FacadeCall.disposal inner handler () r.before
    (r.effect.outcome, r.effect.world) = r.call.conclude x.1 x.2.2

/-- The call reached nobody: giving up succeeded, and everything else was refused. -/
structure Silent (r : Report ℓ η) : Prop where
  untouched : r.effect.world = r.before
  outcome : r.effect.outcome = if r.call.givesUp then .ok () else .error (.error .closed)

/-- The calls on a facade, in order, disposed exactly once of the context behind it: of
`inner`, as the calls that kept the facade had left it by then. -/
inductive Once (handler : Option η) (factory : Option SocketFactory) :
    (inner : Context ℓ η) → List (Report ℓ η) → Prop
  | keeps {inner : Context ℓ η} {r : Report ℓ η} {rest : List (Report ℓ η)}
      (held : r.held = .managed inner handler factory) (kept : r.Keeps)
      (later : Once handler factory (r.call.behind inner factory r.before) rest) :
      Once handler factory inner (r :: rest)
  | disposes {inner : Context ℓ η} {r : Report ℓ η} {rest : List (Report ℓ η)}
      (held : r.held = .managed inner handler factory) (disposed : r.Disposes inner handler)
      (silent : ∀ later ∈ rest, later.Silent) :
      Once handler factory inner (r :: rest)

/-! ## The life of a facade -/

/-- The calls on a facade lead from what it was to what is left of it. -/
inductive Life : Option (Context ℓ η) → List (Report ℓ η) → Option (Context ℓ η) → Prop
  | idle (now : Option (Context ℓ η)) : Life now [] now
  | call {c : Context ℓ η} {r : Report ℓ η} {rest : List (Report ℓ η)}
      {last : Option (Context ℓ η)} (held : r.held = c) (later : Life r.effect.left rest last) :
      Life (some c) (r :: rest) last

/-- A facade that was closed is not reached any more. -/
theorem Life.silent {now last : Option (Context ℓ η)} {reports : List (Report ℓ η)}
    (life : Life now reports last) (spent : ∀ c ∈ now, ∃ factory, c = .closed factory) :
    ∀ r ∈ reports, r.Silent := by
  induction life with
  | idle now => intro r none; cases none
  | @call c first rest last held later ih =>
      obtain ⟨factory, rfl⟩ := spent c rfl
      have alone := FacadeCall.effect_closed first.call factory first.before
      rw [← held] at alone
      obtain ⟨untouched, outcome, closed, -⟩ := alone
      intro r report
      rcases List.mem_cons.1 report with rfl | among
      · exact ⟨untouched, outcome⟩
      · exact ih (fun c left => ⟨factory, held ▸ closed c left⟩) r among

/-- The life of a facade that was made, up to when nothing is left of it. -/
theorem Life.once {inner : Context ℓ η} {handler : Option η} {factory : Option SocketFactory}
    {reports : List (Report ℓ η)}
    (life : Life (some (.managed inner handler factory)) reports none) :
    Once handler factory inner reports := by
  induction reports generalizing inner with
  | nil => cases life
  | cons r rest ih =>
      obtain ⟨place, k, c, w⟩ := r
      obtain ⟨rfl, later⟩ : c = .managed inner handler factory ∧
          Life (k.effect c w).left rest none := by
        cases life with
        | call held later => exact ⟨held, later⟩
      cases gives : k.givesUp with
      | false =>
          have kept : Keeps (⟨place, k, .managed inner handler factory, w⟩ : Report ℓ η) :=
            ⟨gives, fun close discard others =>
              @FacadeCall.effect_unaided ℓ γ η backend handling k gives close discard others _ w⟩
          rw [FacadeCall.effect_keeps gives] at later
          exact .keeps rfl kept (ih later)
      | true =>
          obtain ⟨disposed, closed, -⟩ := FacadeCall.effect_givesUp gives inner handler factory w
          exact .disposes rfl ⟨gives, disposed⟩
            (later.silent fun d left => ⟨factory, closed d left⟩)

end Report

/-! ## Families of facades -/

/-- A facade of a family: as it was made, and as it is now, if it was not dropped. -/
structure Member (ℓ η : Type) where
  origin : Context ℓ η
  now : Option (Context ℓ η)

/-- The facades that grew from one of them, in the order they were made. -/
structure Estate (ℓ η : Type) where
  members : List (Member ℓ η)
  world : World (Context ℓ η)

namespace Estate

open Report (reportsOn Life)

variable {ℓ γ η : Type}

/-- The family of one facade. -/
def ofFacade (c : Context ℓ η) (w : World (Context ℓ η)) : Estate ℓ η := ⟨[⟨c, some c⟩], w⟩

/-- The calls that drop the first `n` facades. -/
def droppings (n : Nat) : List (Nat × FacadeCall ℓ η Unit) :=
  (List.range n).map fun i => (i, .drop)

variable [Backend ℓ γ] [Handling ℓ η]

/-- Make a call on the facade of a place.  Nobody can do anything with a facade that was
dropped or never made. -/
def act (e : Estate ℓ η) (i : Nat) (k : FacadeCall ℓ η Unit) :
    List (Report ℓ η) × Estate ℓ η :=
  match e.members[i]? with
  | some ⟨origin, some c⟩ =>
      let x := k.effect c e.world
      ([⟨i, k, c, e.world⟩],
        ⟨e.members.set i ⟨origin, x.left⟩ ++ x.made.map fun d => ⟨d, some d⟩, x.world⟩)
  | _ => ([], e)

/-- Make calls in order. -/
def run : List (Nat × FacadeCall ℓ η Unit) → Estate ℓ η → List (Report ℓ η) × Estate ℓ η
  | [], e => ([], e)
  | (i, k) :: rest, e =>
      let x := e.act i k
      let y := run rest x.2
      (x.1 ++ y.1, y.2)

/-- Make calls in order, and at last drop every facade that is left. -/
def live (calls : List (Nat × FacadeCall ℓ η Unit)) (e : Estate ℓ η) :
    List (Report ℓ η) × Estate ℓ η :=
  run (calls ++ droppings (run calls e).2.members.length) e

theorem run_append (xs ys : List (Nat × FacadeCall ℓ η Unit)) (e : Estate ℓ η) :
    run (xs ++ ys) e = ((run xs e).1 ++ (run ys (run xs e).2).1, (run ys (run xs e).2).2) := by
  induction xs generalizing e with
  | nil => rfl
  | cons x xs ih => simp only [List.cons_append, run, ih, List.append_assoc]

/-- Either nobody is there to make a call on, or the call is made and reported. -/
theorem act_cases (e : Estate ℓ η) (i : Nat) (k : FacadeCall ℓ η Unit) :
    e.act i k = ([], e) ∨ ∃ origin c, e.members[i]? = some ⟨origin, some c⟩ ∧
      e.act i k = ([⟨i, k, c, e.world⟩],
        ⟨e.members.set i ⟨origin, (k.effect c e.world).left⟩ ++
          (k.effect c e.world).made.map fun d => ⟨d, some d⟩, (k.effect c e.world).world⟩) := by
  unfold act
  split
  · next origin c found => exact .inr ⟨origin, c, found, rfl⟩
  · exact .inl rfl

omit [Backend ℓ γ] [Handling ℓ η] in
/-- Who stands where after a call: the facade it was made on, the others as before, and
behind them the facades that were made. -/
theorem members_cases {members : List (Member ℓ η)} {i : Nat} {before after : Member ℓ η}
    {made : List (Context ℓ η)} (found : members[i]? = some before) {j : Nat} {m : Member ℓ η}
    (stands : (members.set i after ++ made.map fun d => ⟨d, some d⟩)[j]? = some m) :
    (j = i ∧ m = after) ∨ (j ≠ i ∧ members[j]? = some m) ∨
      (members.length ≤ j ∧ ∃ d ∈ made, m = ⟨d, some d⟩) := by
  have inside : i < members.length := (List.getElem?_eq_some_iff.1 found).1
  rcases Nat.lt_or_ge j members.length with old | new
  · rw [List.getElem?_append_left (by simpa using old)] at stands
    by_cases same : j = i
    · subst same
      rw [List.getElem?_set_self inside] at stands
      exact .inl ⟨rfl, (Option.some.inj stands).symm⟩
    · rw [List.getElem?_set_ne (Ne.symm same)] at stands
      exact .inr (.inl ⟨same, stands⟩)
  · rw [List.getElem?_append_right (by simpa using new)] at stands
    have member := List.mem_of_getElem? stands
    obtain ⟨d, handed, rfl⟩ := List.mem_map.1 member
    exact .inr (.inr ⟨new, d, handed, rfl⟩)

/-! ### Which facades there are -/

/-- What a family consists of: facades, and all but the first of them were made without a
handler. -/
structure Grown (e : Estate ℓ η) : Prop where
  facades : ∀ (i : Nat) (m : Member ℓ η), e.members[i]? = some m → ∀ c ∈ m.now, c.isManaged
  derived : ∀ (i : Nat) (m : Member ℓ η), 0 < i → e.members[i]? = some m →
    ∃ inner s, m.origin = .derived inner s

omit [Backend ℓ γ] [Handling ℓ η] in
theorem ofFacade_grown {c : Context ℓ η} (facade : c.isManaged) (w : World (Context ℓ η)) :
    Grown (ofFacade c w) where
  facades i m found d now := by
    cases i with
    | zero =>
        obtain rfl := Option.some.inj found
        obtain rfl := Option.some.inj now
        exact facade
    | succ i => cases found
  derived i m later found := by
    cases i with
    | zero => exact absurd later (Nat.lt_irrefl 0)
    | succ i => cases found

theorem act_grown {e : Estate ℓ η} (grown : Grown e) (i : Nat) (k : FacadeCall ℓ η Unit) :
    Grown (e.act i k).2 := by
  rcases e.act_cases i k with idle | ⟨origin, c, found, made⟩
  · rw [idle]
    exact grown
  · have facade := grown.facades i _ found c rfl
    rw [made]
    constructor
    · intro j m stands d now
      rcases members_cases found stands with ⟨-, rfl⟩ | ⟨-, old⟩ | ⟨-, d', handed, rfl⟩
      · exact k.effect_left_isManaged facade e.world d now
      · exact grown.facades j m old d now
      · obtain ⟨inner, s, rfl⟩ := k.effect_made facade e.world d' handed
        obtain rfl := Option.some.inj now
        rfl
    · intro j m later stands
      rcases members_cases found stands with ⟨rfl, rfl⟩ | ⟨-, old⟩ | ⟨-, d, handed, rfl⟩
      · exact grown.derived j ⟨origin, some c⟩ later found
      · exact grown.derived j m later old
      · exact k.effect_made facade e.world d handed

theorem run_grown (calls : List (Nat × FacadeCall ℓ η Unit)) {e : Estate ℓ η}
    (grown : Grown e) : Grown (run calls e).2 := by
  induction calls generalizing e with
  | nil => exact grown
  | cons k rest ih => exact ih (act_grown grown k.1 k.2)

/-- Who was made is remembered as it was made. -/
theorem act_origins (e : Estate ℓ η) (i : Nat) (k : FacadeCall ℓ η Unit) :
    e.members.map Member.origin <+: (e.act i k).2.members.map Member.origin := by
  rcases e.act_cases i k with idle | ⟨origin, c, found, made⟩
  · simp only [idle, List.prefix_rfl]
  · obtain ⟨inside, stands⟩ := List.getElem?_eq_some_iff.1 found
    have kept : (e.members.set i ⟨origin, (k.effect c e.world).left⟩).map Member.origin =
        e.members.map Member.origin := by
      have bound : i < (e.members.map Member.origin).length := by simpa using inside
      have same : (e.members.map Member.origin)[i] = origin := by simp [stands]
      rw [List.map_set]
      exact same ▸ List.set_getElem_self bound
    rw [made, List.map_append, kept]
    exact List.prefix_append _ _

theorem run_origins (calls : List (Nat × FacadeCall ℓ η Unit)) (e : Estate ℓ η) :
    e.members.map Member.origin <+: (run calls e).2.members.map Member.origin := by
  induction calls generalizing e with
  | nil => exact List.prefix_rfl
  | cons k rest ih => exact (e.act_origins k.1 k.2).trans (ih _)

/-! ### The life of each of them -/

/-- What stood at a place when a run began that ended with `m` there: the facade as the run
found it, or as it was made if it was made on the way. -/
def found (e : Estate ℓ η) (i : Nat) (m : Member ℓ η) : Option (Context ℓ η) :=
  match e.members[i]? with
  | some before => before.now
  | none => some m.origin

/-- One call is the next one in the life of the facade it is made on, and none in the life of
any other. -/
theorem act_life (e : Estate ℓ η) (i : Nat) (k : FacadeCall ℓ η Unit) {j : Nat}
    {m : Member ℓ η} {reports : List (Report ℓ η)}
    (origin : ∀ m' : Member ℓ η, (e.act i k).2.members[j]? = some m' → m'.origin = m.origin)
    (life : Life ((e.act i k).2.found j m) reports m.now) :
    Life (e.found j m) (reportsOn j (e.act i k).1 ++ reports) m.now := by
  rcases e.act_cases i k with idle | ⟨former, c, held, made⟩
  · rw [idle] at life ⊢
    exact life
  · obtain ⟨inside, -⟩ := List.getElem?_eq_some_iff.1 held
    have length : (e.members.set i ⟨former, (k.effect c e.world).left⟩).length =
        e.members.length := List.length_set
    simp only [made] at life origin ⊢
    rcases Nat.lt_or_ge j e.members.length with old | new
    · simp only [found, List.getElem?_append_left (length ▸ old)] at life ⊢
      by_cases same : i = j
      · subst same
        rw [List.getElem?_set_self inside] at life
        rw [held]
        have report : reportsOn i [(⟨i, k, c, e.world⟩ : Report ℓ η)] = [⟨i, k, c, e.world⟩] := by
          simp [reportsOn]
        rw [report]
        exact .call rfl life
      · rw [List.getElem?_set_ne same] at life
        have other : reportsOn j [(⟨i, k, c, e.world⟩ : Report ℓ η)] = [] := by
          simp [reportsOn, same]
        rw [other]
        exact life
    · have other : reportsOn j [(⟨i, k, c, e.world⟩ : Report ℓ η)] = [] := by
        simp [reportsOn, Nat.ne_of_lt (Nat.lt_of_lt_of_le inside new)]
      -- A facade that is made now is found as it is made.
      have born : e.found j m = some m.origin := by
        simp only [found, List.getElem?_eq_none new]
      rw [other, born]
      simp only [found] at life
      split at life
      next m' stands =>
        have same := origin m' stands
        rcases members_cases held stands with ⟨rfl, -⟩ | ⟨-, before⟩ | ⟨-, d, -, rfl⟩
        · exact absurd inside (Nat.not_lt.2 new)
        · rw [List.getElem?_eq_none new] at before
          cases before
        · rw [← same]
          exact life
      next => exact life

/-- The reports on a facade lead from what the run found to what it left. -/
theorem run_life (calls : List (Nat × FacadeCall ℓ η Unit)) (e : Estate ℓ η) {j : Nat}
    {m : Member ℓ η} (stands : (run calls e).2.members[j]? = some m) :
    Life (e.found j m) (reportsOn j (run calls e).1) m.now := by
  induction calls generalizing e with
  | nil =>
      have there : e.found j m = m.now := by
        simp only [found, show e.members[j]? = some m from stands]
      rw [there]
      exact .idle m.now
  | cons k rest ih =>
      have origin : ∀ m' : Member ℓ η, (e.act k.1 k.2).2.members[j]? = some m' →
          m'.origin = m.origin := by
        intro m' stood
        obtain ⟨later, origins⟩ := run_origins rest (e.act k.1 k.2).2
        have kept : (((e.act k.1 k.2).2.members.map Member.origin) ++ later)[j]? =
            some m'.origin := by
          have inside := (List.getElem?_eq_some_iff.1 stood).1
          rw [List.getElem?_append_left (by simpa using inside), List.getElem?_map, stood]
          rfl
        have last : ((run rest (e.act k.1 k.2).2).2.members.map Member.origin)[j]? =
            some m.origin := by
          rw [List.getElem?_map]
          exact congrArg (Option.map Member.origin) stands
        rw [origins, last] at kept
        exact (Option.some.inj kept).symm
      rw [run, Report.reportsOn_append]
      exact act_life e k.1 k.2 origin (ih (e.act k.1 k.2).2 stands)

/-! ## At the end -/

theorem act_drop (e : Estate ℓ η) (i : Nat) :
    (e.act i .drop).2.members = e.members.modify i fun m => { m with now := none } := by
  apply List.ext_getElem?
  intro j
  rw [List.getElem?_modify]
  unfold act
  split
  · next origin c found =>
      obtain ⟨inside, stands⟩ := List.getElem?_eq_some_iff.1 found
      by_cases same : i = j
      · subst same
        simp [FacadeCall.effect, inside, stands]
      · simp [FacadeCall.effect, same]
  · next absent =>
      by_cases same : i = j
      · subst same
        cases found : e.members[i]? with
        | none => rfl
        | some m =>
            cases m with
            | mk origin now =>
                cases now with
                | none => simp
                | some c => exact absurd found (absent origin c)
      · simp [same]

/-- Dropping facades leaves nothing of them. -/
theorem run_drop (places : List Nat) (e : Estate ℓ η) (j : Nat) :
    (run (places.map fun i => (i, .drop)) e).2.members[j]? =
      e.members[j]?.map fun m => if j ∈ places then { m with now := none } else m := by
  induction places generalizing e with
  | nil => simp [run]
  | cons i places ih =>
      simp only [List.map_cons, run, ih, act_drop, List.getElem?_modify]
      cases e.members[j]? with
      | none => rfl
      | some m =>
          by_cases same : i = j
          · subst same
            by_cases among : i ∈ places <;> simp [among]
          · simp [same, Ne.symm same]

/-- Nothing is left of any facade at last. -/
theorem live_now (calls : List (Nat × FacadeCall ℓ η Unit)) (e : Estate ℓ η) {i : Nat}
    {m : Member ℓ η} (stands : (live calls e).2.members[i]? = some m) : m.now = none := by
  simp only [live, run_append, droppings, run_drop, List.mem_range] at stands
  obtain ⟨before, stood, rfl⟩ := Option.map_eq_some_iff.1 stands
  have inside := (List.getElem?_eq_some_iff.1 stood).1
  simp only [inside, if_true]

/-- **Exactly once.**  A family grows from one facade, whatever is done with its members and
whatever contexts, handlers and referrals answer, and at last all of them are dropped.  Then
each facade disposed exactly once of the context behind it: one with a handler gave it that
very context, and one without closed it.  No other call had anything to do with a handler or a
closing, and once a facade was given up, nothing that was done to it reached anybody: closing
it succeeded again, and everything else was refused.  Only the first facade may have a
handler. -/
theorem facades_dispose_once (inner : Context ℓ η) (handler : Option η)
    (factory : Option SocketFactory) (w : World (Context ℓ η))
    (calls : List (Nat × FacadeCall ℓ η Unit)) :
    let start := Context.managed inner handler factory
    let (reports, estate) := live calls (ofFacade start w)
    (∀ (i : Nat) (m : Member ℓ η), estate.members[i]? = some m →
      m.now = none ∧ ∃ c h s, m.origin = .managed c h s ∧
        Report.Once h s c (reportsOn i reports)) ∧
    estate.members.head?.map Member.origin = some start ∧
    (∀ (i : Nat) (m : Member ℓ η), 0 < i → estate.members[i]? = some m →
      ∃ c s, m.origin = Context.derived c s) := by
  intro start
  have grown := run_grown (calls ++ droppings (run calls (ofFacade start w)).2.members.length)
    (ofFacade_grown (c := start) rfl w)
  have origins := run_origins
    (calls ++ droppings (run calls (ofFacade start w)).2.members.length) (ofFacade start w)
  have first : (live calls (ofFacade start w)).2.members.head?.map Member.origin =
      some start := by
    obtain ⟨rest, members⟩ := origins
    rw [← List.head?_map]
    exact members ▸ rfl
  refine ⟨fun i m stands => ?_, first, grown.derived⟩
  have gone := live_now calls (ofFacade start w) stands
  have life := run_life _ _ stands
  rw [gone] at life
  cases i with
  | zero =>
      have same : m.origin = start := by
        have there : (live calls (ofFacade start w)).2.members[0]? = some m := stands
        rw [List.head?_eq_getElem?, there] at first
        exact Option.some.inj first
      exact ⟨gone, inner, handler, factory, same, Report.Life.once life⟩
  | succ i =>
      obtain ⟨c, s, made⟩ := grown.derived (i + 1) m (Nat.succ_pos i) stands
      have born : (ofFacade start w).found (i + 1) m = some (Context.managed c none s) :=
        congrArg some made
      rw [born] at life
      exact ⟨gone, c, none, s, made, Report.Life.once life⟩

/-! ### A context of this library -/

/-- A context over the only connection there is. -/
def loneContext : LdapDirContext where
  connection := some 0
  url := "ldap://a"
  base := "dc=x"
  config := { host := "a" }
  credentials := ⟨"", ""⟩
  environment := .empty
  connectControls := []
  requestControls := []
  responseControls := []

/-- The family of that context under the handler of the library that closes it. -/
def loneEstate : Estate LdapDirContext CloseHandler :=
  ofFacade (.pooled (.plain loneContext) .closing none)
    { network := {
        refusal := "Connection refused"
        links := [{ address := "ldap://a", script := [], sent := [], isOpen := true
                    shares := 1 }] } }

/-- A further instance is made; then the facade is closed, asked and closed again. -/
def loneCalls : List (Nat × FacadeCall LdapDirContext CloseHandler Unit) :=
  [(0, .perform (.newInstance [])), (0, .close), (0, .ask .environment), (0, .close)]

/-- The facade and that of the instance each disposed of their own context, and the connection
was unbound when the second of them was gone. -/
theorem facades_dispose_once_of_closing :
    let (reports, estate) := live loneCalls loneEstate
    Report.Once (some .closing) none (.plain loneContext) (reportsOn 0 reports) ∧
      Report.Once none none (.plain loneContext) (reportsOn 1 reports) ∧
      estate.members.map (fun m => m.now.isSome) = [false, false] ∧
      reports.map (fun r => (r.place, r.effect.outcome)) =
        [(0, .ok ()), (0, .ok ()), (0, .error (.error .closed)), (0, .ok ()), (0, .ok ()),
          (1, .ok ())] ∧
      reports.map (fun r => (r.effect.world.network.link? 0).map fun l => l.sent.length) =
        [some 0, some 0, some 0, some 0, some 0, some 1] := by
  obtain ⟨each, -⟩ :=
    facades_dispose_once (.plain loneContext) (some .closing) none loneEstate.world loneCalls
  obtain ⟨-, c, h, s, made, first⟩ := each 0 ⟨.pooled (.plain loneContext) .closing none, none⟩ rfl
  obtain ⟨rfl, rfl, rfl⟩ := Context.managed.inj made
  obtain ⟨-, c, h, s, made, instanced⟩ := each 1 ⟨.derived (.plain loneContext) none, none⟩ rfl
  obtain ⟨rfl, rfl, rfl⟩ := Context.managed.inj made
  exact ⟨first, instanced, rfl, rfl, rfl⟩

end Estate

end ManagedLdap
