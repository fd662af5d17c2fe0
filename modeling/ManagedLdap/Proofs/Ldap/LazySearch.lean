/-
# ManagedLdap.Proofs.Ldap.LazySearch -- a search cursor delivers its stream, entry by entry

A reader pulls a cursor by asking whether there is more and by asking for an entry, in any
order.  `pull_owed` is the step: a pull answers from what the cursor owes, and the rest is owed
afterwards, whether the entry was looked at before or has to be read.  `run_owed` is the same
for pulls made one after another.  `search_delivers` says what this means for the reader of a
whole search: every entry once and in order, then the failure at the end, once, and then
nothing, without a further request.
-/
import ManagedLdap.Proofs.Ldap.Unread

namespace ManagedLdap

set_option autoImplicit false

namespace SearchCursor

variable {κ : Type} {k : LinkId} {controls : List Control}

/-! ## Pulls -/

/-- A pull of a cursor. -/
inductive Pull where
  | hasMore
  | next
  deriving DecidableEq

/-- What a pull that does not fail answers. -/
inductive Pulled where
  | more (b : Bool)
  | taken (e : Option SearchResult)

namespace Pull

/-- Make a pull. -/
def run : Pull → Act κ SearchCursor Pulled
  | .hasMore => Pulled.more <$> SearchCursor.hasMore
  | .next => Pulled.taken <$> SearchCursor.next

/-- The answer when an entry is there. -/
def finds (e : SearchResult) : Pull → Pulled
  | .hasMore => .more true
  | .next => .taken (some e)

/-- The answer when there is none. -/
def findsNothing : Pull → Pulled
  | .hasMore => .more false
  | .next => .taken none

end Pull

namespace Owed

/-- What a pull answers when this is owed. -/
def answer : Owed → Pull → Except Failure Pulled
  | ⟨e :: _, _⟩, p => .ok (p.finds e)
  | ⟨[], some f⟩, _ => .error f
  | ⟨[], none⟩, p => .ok p.findsNothing

/-- What is owed after a pull: looking at an entry does not take it. -/
def after : Owed → Pull → Owed
  | ⟨e :: later, f⟩, .hasMore => ⟨e :: later, f⟩
  | o, _ => o.rest

end Owed

theorem hasMore_peeked {c : SearchCursor} {e : SearchResult} (w : World κ)
    (peeked : c.peeked = some e) : hasMore c w = (.ok true, c, w) := by
  simp only [hasMore, Act.bind_apply, Act.self_apply, peeked, Act.pure_apply]

theorem next_peeked {c : SearchCursor} {e : SearchResult} (w : World κ)
    (peeked : c.peeked = some e) :
    next c w = (.ok (some e), { c with peeked := none }, w) := by
  simp only [next, Act.bind_apply, Act.self_apply, peeked, Act.update_apply, Act.pure_apply]

theorem hasMore_idle {c : SearchCursor} (w : World κ) (idle : c.peeked = none) :
    hasMore c w =
      match fetch c w with
      | (.ok found, c, w) => (.ok found.isSome, { c with peeked := found }, w)
      | (.error f, c, w) => (.error f, c, w) := by
  simp only [hasMore, Act.bind_apply, Act.self_apply, idle]
  rcases fetch c w with ⟨_ | _, _, _⟩ <;> rfl

theorem next_idle {c : SearchCursor} (w : World κ) (idle : c.peeked = none) :
    next c w = fetch c w := by
  simp only [next, Act.bind_apply, Act.self_apply, idle]

/-- A pull leaves the cursor over its connection. -/
theorem pull_over {c : SearchCursor} (p : Pull)
    (w : World κ) (lies : Over k controls c) : Over k controls (p.run c w).2.1 := by
  cases p with
  | hasMore =>
      rw [Pull.run, Act.map_apply]
      exact (hasMore_reads c w lies).1
  | next =>
      rw [Pull.run, Act.map_apply]
      exact (next_reads c w lies).1

/-- A cursor whose stream is gone and that has no entry at hand. -/
def Spent (c : SearchCursor) : Prop := c.stream = none ∧ c.peeked = none

theorem unpeeked {c : SearchCursor} (idle : c.peeked = none) :
    ({ c with peeked := none } : SearchCursor) = c := by
  rw [← idle]

/-- A spent cursor answers every pull by itself. -/
theorem pull_spent {c : SearchCursor} (p : Pull) (w : World κ) (spent : c.Spent) :
    p.run c w = (.ok p.findsNothing, c, w) := by
  obtain ⟨gone, idle⟩ := spent
  have nothing : fetch c w = (.ok none, c, w) := fetch_spent w gone
  cases p with
  | hasMore =>
      rw [Pull.run, Act.map_apply, hasMore_idle w idle, nothing]
      simp only [unpeeked idle]
      rfl
  | next =>
      rw [Pull.run, Act.map_apply, next_idle w idle, nothing]
      rfl

/-- Where there is no entry at hand, a pull reads on. -/
theorem pull_idle {o : Owed} {c : SearchCursor} {w : World κ} (p : Pull) (idle : c.peeked = none)
    (gets : Gets o (fetch c w)) :
    (p.run c w).1 = o.answer p ∧ (p.run c w).2.1.owed (p.run c w).2.2.network = o.after p ∧
      (o.entries = [] → o.error ≠ some .panic → (p.run c w).2.1.Spent) := by
  obtain ⟨outcome, after, idle', gone⟩ := gets
  cases p with
  | hasMore =>
      rw [Pull.run, Act.map_apply, hasMore_idle w idle]
      generalize fetch c w = x at outcome after idle' gone
      obtain ⟨r, c', w'⟩ := x
      simp only at outcome after idle' gone
      subst outcome
      match o with
      | ⟨e :: later, error⟩ =>
          refine ⟨rfl, ?_, fun drained => nomatch drained⟩
          have there := owed_peeked w'.network (some e) idle'
          rw [after] at there
          exact there
      | ⟨[], some f⟩ =>
          refine ⟨rfl, ?_, fun drained calm => ⟨gone drained calm, idle'⟩⟩
          exact after
      | ⟨[], none⟩ =>
          have same : ({ c' with peeked := none } : SearchCursor) = c' := unpeeked idle'
          simp only [Owed.first, same]
          exact ⟨rfl, after, fun _ _ => ⟨gone rfl (by simp), idle'⟩⟩
  | next =>
      rw [Pull.run, Act.map_apply, next_idle w idle]
      refine ⟨?_, ?_, fun drained calm => ⟨gone drained calm, idle'⟩⟩
      · rw [outcome]
        match o with
        | ⟨_ :: _, _⟩ => rfl
        | ⟨[], some _⟩ => rfl
        | ⟨[], none⟩ => rfl
      · rw [after]
        match o with
        | ⟨_ :: _, _⟩ => rfl
        | ⟨[], some _⟩ => rfl
        | ⟨[], none⟩ => rfl

/-- **The step.**  A pull answers from what the cursor owes, and the rest is owed afterwards.
After an end that is no panic the cursor is spent. -/
theorem pull_owed {c : SearchCursor} {w : World κ}
    (p : Pull) (lies : Over k controls c) :
    (p.run c w).1 = (c.owed w.network).answer p ∧
      (p.run c w).2.1.owed (p.run c w).2.2.network = (c.owed w.network).after p ∧
      ((c.owed w.network).entries = [] → (c.owed w.network).error ≠ some .panic →
        (p.run c w).2.1.Spent) := by
  cases peeked : c.peeked with
  | none =>
      have own : ∀ s ∈ c.stream, s.link = c.link := fun s running =>
        (lies.stream s running).1.trans lies.link.symm
      exact pull_idle p peeked (fetch_gets w own peeked)
  | some e =>
      let past : SearchCursor := { c with peeked := none }
      have same : c = { past with peeked := some e } := by rw [← peeked]
      have owes : c.owed w.network =
          ⟨e :: (past.owed w.network).entries, (past.owed w.network).error⟩ := by
        rw [same]
        exact owed_peeked w.network (some e) rfl
      rw [owes]
      refine ⟨?_, ?_, fun drained => nomatch drained⟩
      · cases p with
        | hasMore => rw [Pull.run, Act.map_apply, hasMore_peeked w peeked]; rfl
        | next => rw [Pull.run, Act.map_apply, next_peeked w peeked]; rfl
      · cases p with
        | hasMore =>
            rw [Pull.run, Act.map_apply, hasMore_peeked w peeked]
            exact owes
        | next =>
            rw [Pull.run, Act.map_apply, next_peeked w peeked]
            rfl

/-- A look finds an entry exactly when the pull after it would hand one out. -/
theorem Owed.answer_foresees (o : Owed) :
    o.answer .hasMore = .ok (.more true) ↔
      ∃ e, (o.after .hasMore).answer .next = .ok (.taken (some e)) := by
  match o with
  | ⟨e :: _, _⟩ => exact ⟨fun _ => ⟨e, rfl⟩, fun _ => rfl⟩
  | ⟨[], none⟩ => simp [Owed.answer, Owed.after, Owed.rest, Pull.findsNothing]
  | ⟨[], some .panic⟩ => simp [Owed.answer, Owed.after, Owed.rest]
  | ⟨[], some (.error _)⟩ => simp [Owed.answer, Owed.after, Owed.rest, Pull.findsNothing]

/-- Asking whether there is more tells what the next pull for an entry comes to. -/
theorem look_foresees {c : SearchCursor} (w : World κ) (lies : Over k controls c) :
    (Pull.hasMore.run c w).1 = .ok (.more true) ↔
      ∃ e, (Pull.next.run (Pull.hasMore.run c w).2.1 (Pull.hasMore.run c w).2.2).1 =
        .ok (.taken (some e)) := by
  obtain ⟨looks, left, -⟩ := pull_owed .hasMore (w := w) lies
  have lies' := pull_over .hasMore w lies
  obtain ⟨takes, -, -⟩ := pull_owed .next (w := (Pull.hasMore.run c w).2.2) lies'
  rw [looks, takes, left]
  exact (c.owed w.network).answer_foresees

/-- A look that found an entry has it at hand. -/
theorem look_again {c : SearchCursor} {w : World κ}
    (found : (Pull.hasMore.run c w).1 = .ok (.more true)) :
    Pull.hasMore.run (Pull.hasMore.run c w).2.1 (Pull.hasMore.run c w).2.2 =
      (.ok (.more true), (Pull.hasMore.run c w).2) := by
  simp only [Pull.run, Act.map_apply] at found ⊢
  cases peeked : c.peeked with
  | some e =>
      simp only [hasMore_peeked w peeked]
      rfl
  | none =>
      rw [hasMore_idle w peeked] at found ⊢
      generalize fetch c w = x at found ⊢
      obtain ⟨r, c', w'⟩ := x
      match r with
      | .error f => cases found
      | .ok none => cases found
      | .ok (some e) =>
          simp only [hasMore_peeked (c := { c' with peeked := some e }) w' rfl]
          rfl

/-! ## Runs of pulls -/

/-- The entry that an answer hands out. -/
def entryOf : Except Failure Pulled → Option SearchResult
  | .ok (.taken e) => e
  | _ => none

theorem count_cons (p : Pull) (pulls : List Pull) :
    (p :: pulls).count Pull.next = [p].count .next + pulls.count .next := by
  rw [← List.count_append, List.singleton_append]

namespace Owed

/-- An entry that is handed out is the first one owed. -/
theorem take_step (o : Owed) (p : Pull) (n : Nat) :
    o.entries.take ([p].count .next + n) =
      (entryOf (o.answer p)).toList ++ (o.after p).entries.take n := by
  match o, p with
  | ⟨_ :: _, _⟩, .hasMore => simp [answer, after, Pull.finds, entryOf]
  | ⟨_ :: _, _⟩, .next => simp [answer, after, rest, Pull.finds, entryOf, Nat.add_comm 1 n]
  | ⟨[], none⟩, p => cases p <;> simp [answer, after, rest, Pull.findsNothing, entryOf]
  | ⟨[], some .panic⟩, _ => simp [answer, after, rest, entryOf]
  | ⟨[], some (.error _)⟩, _ => simp [answer, after, rest, entryOf]

theorem after_entries (o : Owed) (p : Pull) :
    (o.after p).entries = o.entries.drop ([p].count .next) := by
  match o, p with
  | ⟨_ :: _, _⟩, .hasMore => rfl
  | ⟨_ :: _, _⟩, .next => rfl
  | ⟨[], none⟩, _ => simp [after, rest]
  | ⟨[], some .panic⟩, _ => simp [after, rest]
  | ⟨[], some (.error _)⟩, _ => simp [after, rest]

/-- The failure stays owed as long as entries are. -/
theorem after_error {o : Owed} (p : Pull) (pending : o.entries ≠ []) :
    (o.after p).error = o.error := by
  match o, p with
  | ⟨_ :: _, _⟩, .hasMore => rfl
  | ⟨_ :: _, _⟩, .next => rfl
  | ⟨[], _⟩, _ => exact absurd rfl pending

theorem after_calm {o : Owed} (p : Pull) (calm : o.error ≠ some .panic) :
    (o.after p).error ≠ some .panic := by
  match o, p with
  | ⟨_ :: _, _⟩, .hasMore => exact calm
  | ⟨_ :: _, _⟩, .next => exact calm
  | ⟨[], none⟩, _ => simp [after, rest]
  | ⟨[], some .panic⟩, _ => exact absurd rfl calm
  | ⟨[], some (.error _)⟩, _ => simp [after, rest]

/-- What is owed after some pulls. -/
def afterAll (o : Owed) (pulls : List Pull) : Owed := pulls.foldl after o

theorem afterAll_entries (o : Owed) (pulls : List Pull) :
    (o.afterAll pulls).entries = o.entries.drop (pulls.count .next) := by
  induction pulls generalizing o with
  | nil => rfl
  | cons p pulls ih =>
      rw [afterAll, List.foldl_cons, ← afterAll, ih, after_entries, List.drop_drop,
        count_cons p pulls]

theorem afterAll_error {o : Owed} {pulls : List Pull}
    (pending : ∀ before p later, pulls = before ++ p :: later →
      (o.afterAll before).entries ≠ []) : (o.afterAll pulls).error = o.error := by
  induction pulls generalizing o with
  | nil => rfl
  | cons p pulls ih =>
      have first : o.entries ≠ [] := pending [] p pulls rfl
      rw [afterAll, List.foldl_cons, ← afterAll, ih, after_error p first]
      intro before q later split
      exact pending (p :: before) q later (by rw [split, List.cons_append])

theorem afterAll_calm {o : Owed} (pulls : List Pull) (calm : o.error ≠ some .panic) :
    (o.afterAll pulls).error ≠ some .panic := by
  induction pulls generalizing o with
  | nil => exact calm
  | cons p pulls ih => exact ih (after_calm p calm)

end Owed

/-- What one pull did. -/
structure Report (κ : Type) where
  pull : Pull
  outcome : Except Failure Pulled
  before : SearchCursor × World κ
  after : SearchCursor × World κ

/-- The report of a pull. -/
def Pull.report (p : Pull) (x : SearchCursor × World κ) : Report κ :=
  { pull := p
    outcome := (p.run x.1 x.2).1
    before := x
    after := (p.run x.1 x.2).2 }

/-- The reports of pulls made one after another. -/
def reports : List Pull → SearchCursor × World κ → List (Report κ)
  | [], _ => []
  | p :: pulls, x => p.report x :: reports pulls (p.report x).after

/-- What pulls leave behind. -/
def leave : List Pull → SearchCursor × World κ → SearchCursor × World κ
  | [], x => x
  | p :: pulls, x => leave pulls (p.report x).after

/-- The entries a run took, in order. -/
def taken (run : List (Report κ)) : List SearchResult := run.filterMap fun r => entryOf r.outcome

/-- How often a run asked for an entry. -/
def asked (run : List (Report κ)) : Nat := (run.map Report.pull).count .next

@[simp] theorem reports_pulls (pulls : List Pull) (x : SearchCursor × World κ) :
    (reports pulls x).map Report.pull = pulls := by
  induction pulls generalizing x with
  | nil => rfl
  | cons p pulls ih => rw [reports, List.map_cons, ih]; rfl

theorem reports_append (pulls more : List Pull) (x : SearchCursor × World κ) :
    reports (pulls ++ more) x = reports pulls x ++ reports more (leave pulls x) := by
  induction pulls generalizing x with
  | nil => rfl
  | cons p pulls ih => rw [List.cons_append, reports, ih]; rfl

/-- Where a run is split, so are its pulls. -/
theorem reports_split {pulls : List Pull} {x : SearchCursor × World κ}
    {earlier later : List (Report κ)} {r : Report κ}
    (split : reports pulls x = earlier ++ r :: later) :
    ∃ before p after, pulls = before ++ p :: after ∧ earlier = reports before x ∧
      r = p.report (leave before x) ∧ later = reports after r.after := by
  induction earlier generalizing pulls x with
  | nil =>
      cases pulls with
      | nil => cases split
      | cons p pulls =>
          obtain ⟨rfl, rfl⟩ := List.cons.inj split
          exact ⟨[], p, pulls, rfl, rfl, rfl, rfl⟩
  | cons first earlier ih =>
      cases pulls with
      | nil => cases split
      | cons p pulls =>
          obtain ⟨rfl, rest⟩ := List.cons.inj split
          obtain ⟨before, q, after, rfl, rfl, rfl, rfl⟩ := ih rest
          exact ⟨p :: before, q, after, rfl, rfl, rfl, rfl⟩

/-- Nothing happens to a spent cursor. -/
theorem leave_spent (pulls : List Pull) {x : SearchCursor × World κ} (spent : x.1.Spent) :
    leave pulls x = x := by
  induction pulls with
  | nil => rfl
  | cons p pulls ih =>
      have same : (p.report x).after = x := by rw [Pull.report, pull_spent p x.2 spent]
      rw [leave, same, ih]

/-- **The run.**  After pulls the cursor owes what they left, and they took as many of the
entries owed as they asked for. -/
theorem run_owed (pulls : List Pull) {x : SearchCursor × World κ} (lies : Over k controls x.1) :
    Over k controls (leave pulls x).1 ∧
      (leave pulls x).1.owed (leave pulls x).2.network =
        (x.1.owed x.2.network).afterAll pulls ∧
      taken (reports pulls x) = (x.1.owed x.2.network).entries.take (pulls.count .next) := by
  induction pulls generalizing x with
  | nil => exact ⟨lies, rfl, rfl⟩
  | cons p pulls ih =>
      obtain ⟨outcome, after, -⟩ := pull_owed p (w := x.2) lies
      obtain ⟨lies', owes, took⟩ := ih (x := (p.report x).after) (pull_over p x.2 lies)
      have left : (p.report x).after.1.owed (p.report x).after.2.network =
          (x.1.owed x.2.network).after p := after
      rw [left] at owes took
      refine ⟨lies', owes, ?_⟩
      have first : entryOf (p.report x).outcome = entryOf ((x.1.owed x.2.network).answer p) :=
        congrArg entryOf outcome
      rw [count_cons, Owed.take_step, ← took, ← first, reports, taken, List.filterMap_cons]
      cases entryOf (p.report x).outcome <;> rfl

/-! ## The delivery of a search -/

/-- Some pull of a run was made when all of `all` had been taken. -/
def PastEnd (all : List SearchResult) (run : List (Report κ)) : Prop :=
  ∃ before r after, run = before ++ r :: after ∧ taken before = all

/-- A run delivers these entries and then this failure, if there is one. -/
structure Delivers (all : List SearchResult) (error : Option Failure) (run : List (Report κ)) :
    Prop where
  /-- It took as many entries as it asked for: the first ones, in order. -/
  takes : taken run = all.take (asked run)
  /-- While an entry is left, every pull finds it. -/
  finds : ∀ earlier r later e rest, run = earlier ++ r :: later →
    all = taken earlier ++ e :: rest → r.outcome = .ok (r.pull.finds e)
  /-- Asking whether there is more tells what the next pull for an entry comes to. -/
  foresees : ∀ r ∈ run, r.pull = .hasMore →
    (r.outcome = .ok (.more true) ↔
      ∃ e, (Pull.next.run r.after.1 r.after.2).1 = .ok (.taken (some e)))
  /-- Once it found an entry, asking again changes nothing and reads nothing. -/
  waits : ∀ r ∈ run, r.pull = .hasMore → r.outcome = .ok (.more true) →
    Pull.hasMore.run r.after.1 r.after.2 = (.ok (.more true), r.after)
  /-- The first pull after all entries reports the failure, or that there is nothing more. -/
  ends : ∀ earlier r later, run = earlier ++ r :: later → taken earlier = all →
    ¬ PastEnd all earlier →
      r.outcome = match error with
        | some f => .error f
        | none => .ok r.pull.findsNothing
  /-- Every pull after that finds nothing, and leaves the cursor and the world as they are, unless
  reading the end panicked. -/
  rests : ∀ earlier r later, run = earlier ++ r :: later → PastEnd all earlier →
    error ≠ some .panic → r.outcome = .ok r.pull.findsNothing ∧ r.after = r.before

/-- What pulls took and what is owed after them is what was owed before. -/
theorem taken_append (pulls : List Pull) {x : SearchCursor × World κ}
    (lies : Over k controls x.1) :
    (x.1.owed x.2.network).entries =
      taken (reports pulls x) ++ ((x.1.owed x.2.network).afterAll pulls).entries := by
  rw [(run_owed pulls lies).2.2, Owed.afterAll_entries, List.take_append_drop]

theorem drained_of_taken {pulls : List Pull} {x : SearchCursor × World κ}
    (lies : Over k controls x.1)
    (all : taken (reports pulls x) = (x.1.owed x.2.network).entries) :
    ((x.1.owed x.2.network).afterAll pulls).entries = [] := by
  have split := taken_append pulls lies
  rwa [all, List.self_eq_append_right] at split

/-- A pull within a run answers from what the pulls before it left. -/
theorem report_owed (pulls : List Pull) (p : Pull) {x : SearchCursor × World κ}
    (lies : Over k controls x.1) :
    (p.report (leave pulls x)).outcome = ((x.1.owed x.2.network).afterAll pulls).answer p ∧
      (((x.1.owed x.2.network).afterAll pulls).entries = [] →
        (x.1.owed x.2.network).error ≠ some .panic →
          (p.report (leave pulls x)).after.1.Spent) := by
  obtain ⟨lies', owes, -⟩ := run_owed pulls lies
  obtain ⟨outcome, -, spent⟩ := pull_owed p (w := (leave pulls x).2) lies'
  rw [owes] at outcome spent
  exact ⟨outcome, fun drained calm => spent drained (Owed.afterAll_calm pulls calm)⟩

/-- The first pull after the end. -/
theorem report_first {pulls : List Pull} (p : Pull) {x : SearchCursor × World κ}
    (lies : Over k controls x.1)
    (all : taken (reports pulls x) = (x.1.owed x.2.network).entries)
    (fresh : ¬ PastEnd (x.1.owed x.2.network).entries (reports pulls x)) :
    (p.report (leave pulls x)).outcome =
      match (x.1.owed x.2.network).error with
      | some f => .error f
      | none => .ok p.findsNothing := by
  have drained := drained_of_taken lies all
  have error : ((x.1.owed x.2.network).afterAll pulls).error = (x.1.owed x.2.network).error := by
    refine Owed.afterAll_error fun before q later split none => fresh ?_
    have run : reports pulls x = reports before x ++ q.report (leave before x) ::
        reports later (q.report (leave before x)).after := by
      rw [split, reports_append, reports]
    exact ⟨_, _, _, run, by rw [taken_append before lies, none, List.append_nil]⟩
  rw [(report_owed pulls p lies).1, ← error]
  generalize (x.1.owed x.2.network).afterAll pulls = o at drained
  obtain ⟨entries, left⟩ := o
  subst drained
  cases left <;> rfl

/-- Every pull after that. -/
theorem report_rests {pulls : List Pull} {x : SearchCursor × World κ}
    {earlier later : List (Report κ)} {r : Report κ}
    (lies : Over k controls x.1) (split : reports pulls x = earlier ++ r :: later)
    (past : PastEnd (x.1.owed x.2.network).entries earlier)
    (calm : (x.1.owed x.2.network).error ≠ some .panic) :
    r.outcome = .ok r.pull.findsNothing ∧ r.after = r.before := by
  obtain ⟨before, last, between, rfl, all⟩ := past
  rw [List.append_assoc, List.cons_append] at split
  obtain ⟨first, q, after, rfl, rfl, rfl, rest⟩ := reports_split split
  have spent := (report_owed first q lies).2 (drained_of_taken lies all) calm
  obtain ⟨more, p, _, rfl, rfl, rfl, rfl⟩ := reports_split rest.symm
  generalize (q.report (leave first x)).after = y at spent
  have still : p.run y.1 y.2 = (.ok p.findsNothing, y) := pull_spent p y.2 spent
  rw [leave_spent more spent, Pull.report, still]
  exact ⟨rfl, rfl⟩

/-- **A cursor delivers what it owes**, however it is pulled. -/
theorem reports_deliver (pulls : List Pull) {x : SearchCursor × World κ}
    (lies : Over k controls x.1) :
    Delivers (x.1.owed x.2.network).entries (x.1.owed x.2.network).error (reports pulls x) where
  takes := by
    rw [asked, reports_pulls]
    exact (run_owed pulls lies).2.2
  finds := by
    intro earlier r later e rest split all
    obtain ⟨before, p, after, rfl, rfl, rfl, rfl⟩ := reports_split split
    have left : ((x.1.owed x.2.network).afterAll before).entries = e :: rest :=
      List.append_cancel_left ((taken_append before lies).symm.trans all)
    rw [(report_owed before p lies).1]
    generalize (x.1.owed x.2.network).afterAll before = o at left
    obtain ⟨entries, error⟩ := o
    subst left
    rfl
  foresees := by
    intro r among asks
    obtain ⟨earlier, later, split⟩ := List.append_of_mem among
    obtain ⟨before, p, after, rfl, rfl, rfl, rfl⟩ := reports_split split
    obtain rfl : p = .hasMore := asks
    exact look_foresees (leave before x).2 (run_owed before lies).1
  waits := by
    intro r among asks found
    obtain ⟨earlier, later, split⟩ := List.append_of_mem among
    obtain ⟨before, p, after, rfl, rfl, rfl, rfl⟩ := reports_split split
    obtain rfl : p = .hasMore := asks
    exact look_again found
  ends := by
    intro earlier r later split all fresh
    obtain ⟨before, p, after, rfl, rfl, rfl, rfl⟩ := reports_split split
    exact report_first p lies all fresh
  rests := by
    intro earlier r later split past calm
    exact report_rests lies split past calm

/-- **A search delivers its stream.**  Whatever a stream still holds, its pages, and however a
new cursor over it is pulled: the reader gets the entries of the stream, in order and each
once, then once the failure its end comes to, and then nothing any more. -/
theorem search_delivers (s : Client.SearchStream) (base : String) (origin : ReferralOrigin)
    (w : World κ) (pulls : List Pull) :
    Delivers
      ((Client.entries (s.unread w.network).1).map fun e => (s.library.construct e).result base)
      ((new s.link s base origin).terminal (Client.references (s.unread w.network).1)
        (s.unread w.network).2)
      (reports pulls (new s.link s base origin, w)) :=
  reports_deliver pulls (x := (new s.link s base origin, w)) (.new s base origin)

end SearchCursor

end ManagedLdap
