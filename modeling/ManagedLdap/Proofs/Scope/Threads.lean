/-
# ManagedLdap.Proofs.Scope.Threads -- guards that die in any order, on any number of threads

A thread has one slot, and any number of scopes may be open on it at once: guards that it keeps
and drops in any order, and blocks, which end in the reverse of the order they began.  A scope that
brought a factory empties the slot when it ends, although an older scope may have filled it before,
or a younger one since.  So the slot says little about the scopes that are open; what matters is
the converse, that a factory in the slot always has a scope behind it.

`Backed` says this of a thread, and every step of the thread keeps it (`step_backed`).  Steps of
several threads come in any order, and a thread is what its own steps alone make of it
(`Threads.run_apply`), so `no_stale_factory` holds at every point of every interleaving.

The steps are those of a `ScopeScript`, taken one by one: `ScopeScript.run_steps` says that running
a script is taking its steps.
-/
import ManagedLdap.Session.Guards

namespace ManagedLdap

set_option autoImplicit false

/-! ## One thread -/

namespace ScopeState

@[simp] theorem release_guards (s : ScopeState) (guard : Option Guard) :
    (s.release guard).guards = s.guards := by
  cases guard <;> rfl

/-- What is in the slot after a guard was dropped was there before, and the guard had installed
nothing. -/
theorem release_filled {s : ScopeState} {guard : Option Guard}
    (filled : (s.release guard).slot.isSome) :
    s.slot.isSome ∧ ∀ old, guard = some old → old.installed = false := by
  cases guard with
  | none => exact ⟨filled, fun _ none => nomatch none⟩
  | some old =>
      cases gone : old.installed with
      | true => simp [release, SocketScope.release, SocketScope.clear, gone] at filled
      | false =>
          simp only [release, SocketScope.release, gone, Bool.false_eq_true, if_false] at filled
          exact ⟨filled, fun _ same => Option.some.inj same ▸ gone⟩

end ScopeState

/-- What a thread does about its scopes. -/
inductive ScopeStep where
  /-- Begin a scope and keep its guard; a guard that is kept there is dropped then. -/
  | enter (factory : Option SocketFactory) (guard : String)
  /-- Drop a guard, if there is one. -/
  | drop (guard : String)
  /-- Begin a block in a scope of its own. -/
  | begins (factory : Option SocketFactory)
  /-- End the innermost block, if there is one. -/
  | ends (ending : ScopeEnding)

/-- A thread: its slot, the guards it keeps, and those of the blocks it is in, the innermost
first. -/
structure ScopeThread where
  state : ScopeState := {}
  blocks : List Guard := []

namespace ScopeThread

/-- Take a step. -/
def step (t : ScopeThread) : ScopeStep → ScopeThread
  | .enter factory guard => { t with state := t.state.enter factory guard }
  | .drop guard => { t with state := t.state.drop guard }
  | .begins factory =>
      let (guard, slot) := SocketScope.enter factory t.state.slot
      ⟨{ t.state with slot := slot }, guard :: t.blocks⟩
  | .ends _ =>
      match t.blocks with
      | [] => t
      | guard :: rest => ⟨t.state.release (some guard), rest⟩

/-- A guard that was not dropped yet. -/
def Alive (t : ScopeThread) (guard : Guard) : Prop :=
  (∃ name, t.state.guards.get? name = some guard) ∨ guard ∈ t.blocks

/-- A factory in the slot has a scope behind it: the guard of one that installed a factory is
alive. -/
def Backed (t : ScopeThread) : Prop :=
  t.state.slot.isSome → ∃ guard, t.Alive guard ∧ guard.installed

variable {t : ScopeThread}

theorem start_backed : Backed {} := fun filled => nomatch (show false = true from filled)

/-- Dropping the guard of a name: if it installed a factory the slot is empty, and if not, the
guard behind the slot is another one. -/
theorem backed_without (backed : t.Backed) {name : String} {guards : OrderedMap Guard}
    (others : ∀ k, k ≠ name → guards.get? k = t.state.guards.get? k) :
    Backed ⟨ScopeState.release ⟨guards, t.state.slot⟩ (t.state.guards.get? name), t.blocks⟩ := by
  intro filled
  obtain ⟨before, idle⟩ := ScopeState.release_filled filled
  obtain ⟨guard, alive, installed⟩ := backed before
  refine ⟨guard, alive.imp ?_ id, installed⟩
  rintro ⟨k, kept⟩
  refine ⟨k, ?_⟩
  rw [ScopeState.release_guards, others k, kept]
  rintro rfl
  rw [idle guard kept] at installed
  cases installed

/-- **One step** keeps a scope behind the factory in the slot. -/
theorem step_backed (backed : t.Backed) (step : ScopeStep) : (t.step step).Backed := by
  cases step with
  | enter factory name =>
      cases factory with
      | some f =>
          refine fun _ => ⟨⟨true⟩, .inl ⟨name, ?_⟩, rfl⟩
          simp [ScopeThread.step, ScopeState.enter, OrderedMap.get?_insert]
      | none =>
          refine backed_without backed fun k other => ?_
          rw [OrderedMap.get?_insert, if_neg other]
  | drop name =>
      refine backed_without backed fun k other => ?_
      rw [OrderedMap.get?_erase, if_neg other]
  | begins factory =>
      cases factory with
      | some f => exact fun _ => ⟨⟨true⟩, .inr List.mem_cons_self, rfl⟩
      | none =>
          intro filled
          obtain ⟨guard, alive, installed⟩ := backed filled
          exact ⟨guard, alive.imp id (List.mem_cons_of_mem _), installed⟩
  | ends ending =>
      obtain ⟨state, blocks⟩ := t
      cases blocks with
      | nil => exact backed
      | cons innermost rest =>
          intro filled
          obtain ⟨before, idle⟩ := ScopeState.release_filled filled
          obtain ⟨guard, alive, installed⟩ := backed before
          refine ⟨guard, ?_, installed⟩
          rcases alive with ⟨name, kept⟩ | inside
          · exact .inl ⟨name, kept⟩
          · rcases List.mem_cons.1 inside with rfl | deeper
            · rw [idle guard rfl] at installed
              cases installed
            · exact .inr deeper

/-- Any number of steps. -/
theorem steps_backed (backed : t.Backed) (steps : List ScopeStep) :
    (steps.foldl ScopeThread.step t).Backed := by
  induction steps generalizing t with
  | nil => exact backed
  | cons step rest ih => exact ih (step_backed backed step)

end ScopeThread

/-! ## Steps of a script -/

namespace ScopeScript

/-- The steps of a script that runs on one thread and touches the slot through scopes only. -/
def steps? : ScopeScript → Option (List ScopeStep)
  | .done => some []
  | .enter factory guard rest => do return .enter factory guard :: (← rest.steps?)
  | .release guard rest => do return .drop guard :: (← rest.steps?)
  | .scope factory body ending rest => do
      return .begins factory :: (← body.steps?) ++ .ends ending :: (← rest.steps?)
  | _ => none

/-- Running a script is taking its steps, whatever blocks the thread is in. -/
theorem run_steps {script : ScopeScript} {steps : List ScopeStep}
    (taken : script.steps? = some steps) (t : ScopeThread) :
    steps.foldl ScopeThread.step t = { t with state := (script.run t.state).2 } := by
  induction script generalizing steps t with
  | done =>
      obtain rfl := Option.some.inj taken
      rfl
  | enter factory guard rest ih =>
      obtain ⟨after, following, done⟩ := Option.bind_eq_some_iff.1 taken
      obtain rfl := Option.some.inj done
      exact ih following (t.step (.enter factory guard))
  | release guard rest ih =>
      obtain ⟨after, following, done⟩ := Option.bind_eq_some_iff.1 taken
      obtain rfl := Option.some.inj done
      exact ih following (t.step (.drop guard))
  | scope factory body ending rest ihBody ih =>
      obtain ⟨inside, within, taken⟩ := Option.bind_eq_some_iff.1 taken
      obtain ⟨after, following, done⟩ := Option.bind_eq_some_iff.1 taken
      obtain rfl := Option.some.inj done
      rw [List.cons_append, List.foldl_cons, List.foldl_append, List.foldl_cons, ihBody within]
      exact ih following _
  | install factory rest ih => cases taken
  | clear rest ih => cases taken
  | thread body rest ihBody ih => cases taken

end ScopeScript

/-! ## Any number of threads -/

/-- Threads, each with a slot and guards of its own. -/
abbrev Threads := Nat → ScopeThread

namespace Threads

/-- Nothing in any slot, and no scope begun. -/
def start : Threads := fun _ => {}

/-- One thread takes a step. -/
def step (threads : Threads) (thread : Nat) (step : ScopeStep) : Threads :=
  fun t => if t = thread then (threads t).step step else threads t

/-- Steps of threads, in the order they happen in. -/
def run (threads : Threads) (schedule : List (Nat × ScopeStep)) : Threads :=
  schedule.foldl (fun threads e => threads.step e.1 e.2) threads

/-- The steps of one thread. -/
def own (thread : Nat) (schedule : List (Nat × ScopeStep)) : List ScopeStep :=
  (schedule.filter fun e => e.1 == thread).map Prod.snd

/-- A thread is what its own steps make of it. -/
theorem run_apply (threads : Threads) (schedule : List (Nat × ScopeStep)) (thread : Nat) :
    threads.run schedule thread =
      (own thread schedule).foldl ScopeThread.step (threads thread) := by
  induction schedule generalizing threads with
  | nil => rfl
  | cons e rest ih =>
      refine (ih (threads.step e.1 e.2)).trans ?_
      by_cases mine : thread = e.1
      · simp [own, step, mine]
      · simp [own, step, mine, Ne.symm mine]

/-- **No stale factory.**  Threads begin and end scopes with factories and without, drop their
guards in any order, and go through blocks that return, fail or panic; their steps come in any
order.  At every point a thread is what its own steps alone have made of it, in their order, so no
step of another thread changes its slot; and if no guard of a scope that installed a factory on it
is alive, its slot is empty. -/
theorem no_stale_factory (schedule : List (Nat × ScopeStep)) (thread : Nat) :
    let threads := start.run schedule
    threads thread = (own thread schedule).foldl ScopeThread.step {} ∧
      (∀ other step, other ≠ thread → threads.step other step thread = threads thread) ∧
      ((∀ guard, (threads thread).Alive guard → guard.installed = false) →
        (threads thread).state.slot = none) := by
  intro threads
  have alone : threads thread = (own thread schedule).foldl ScopeThread.step {} :=
    run_apply start schedule thread
  refine ⟨alone, fun other step elsewhere => if_neg (Ne.symm elsewhere), ?_⟩
  intro idle
  have backed : (threads thread).Backed := by
    rw [alone]
    exact ScopeThread.steps_backed ScopeThread.start_backed _
  cases filled : (threads thread).state.slot with
  | none => rfl
  | some factory =>
      obtain ⟨guard, alive, installed⟩ := backed (by rw [filled]; rfl)
      rw [idle guard alive] at installed
      cases installed

/-- Two guards of one thread are dropped in the order they were made, and the slot is empty after
the first although the second is alive; the other thread keeps what it has, and a block that
panics there takes it away. -/
example :
    let schedule : List (Nat × ScopeStep) :=
      [(0, .enter (some (.named "first")) "g"), (1, .enter (some (.named "elsewhere")) "g"),
        (0, .enter (some (.named "second")) "h"), (0, .drop "g")]
    let threads := start.run schedule
    let later := threads.run [(1, .begins (some (.named "inner"))), (1, .ends .panicked)]
    (threads 0).state.slot = none ∧ (threads 1).state.slot = some (.named "elsewhere") ∧
      (later 1).state.slot = none := by
  decide

end Threads

end ManagedLdap
