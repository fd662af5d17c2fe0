/-
# ManagedLdap.Proofs.Ldap.Abandonment -- giving a search up

A search that nobody wants any more has to be given up at its server, once, and only as long as it
runs: a second abandon request, or one after the end, may hit another operation, and a missing one
leaves the server sending.  A cursor gives its search up when it is closed with its stream still
there, and it names the page it asked for last.

What may go wrong lies between the calls.  The context that started the search may be closed,
reconnected or dropped, others may talk over the same connection, and the stream may end in a pull
whose reader never asks again.  `Tracked` is what holds of the cursor at every moment of a run,
whatever is done to the rest of the fleet: its stream is there as long as no call came upon its
end, and remembers the last place that the search took on its connection.  `Tracked.reads` is the
step for the calls of the cursor and `Tracked.passes` the one for everything else;
`abandoned_once` puts them together.
-/
import ManagedLdap.Proofs.Ldap.PageReads
import ManagedLdap.Proofs.Ldap.Tally
import ManagedLdap.Proofs.Ldap.Unbind

namespace ManagedLdap

set_option autoImplicit false

/-! ## Closing a cursor -/

/-- Who talks over one connection says nothing over the others. -/
theorem Network.Talked.elsewhere {n n' : Network} {k j : LinkId} {P : SentRequest → Prop}
    (talked : Talked (some k) P n n') (other : j ≠ k) : n'.sentOver j = n.sentOver j := by
  obtain ⟨f, -, rfl⟩ := talked
  exact sentOver_congr (link?_along (fun same => other (Option.some.inj same).symm) f)

/-- Whether a request gives another one up. -/
def Request.isAbandon : Request → Bool
  | .abandon _ => true
  | _ => false

namespace SearchCursor

variable {κ : Type}

/-- A cursor that was closed. -/
def closed (c : SearchCursor) : SearchCursor := { c with peeked := none, stream := none }

/-- What giving up the search at a place comes to: one request, if the server listens. -/
def givenUp (base : String) (k : LinkId) (latest : Nat) (w : World κ) : World κ :=
  if w.network.isOpen k then
    { w with network := w.network.send k ⟨.abandon latest, []⟩ }
  else w.warn (.abandonFailed base .sendOnClosed)

/-- Closing a cursor whose stream is there gives the search up. -/
theorem close_running {c : SearchCursor} {s : Client.SearchStream} (w : World κ)
    (running : c.stream = some s) :
    close c w = (.ok (), c.closed, givenUp c.base c.link s.latest w) := by
  simp only [close, Act.bind_apply, Act.self_apply, Act.update_apply, running, Client.post_apply,
    givenUp]
  cases w.network.isOpen c.link <;> rfl

/-- Nothing but the one request is sent, and that only over the connection of the search. -/
theorem givenUp_sentOver (base : String) (k : LinkId) (latest : Nat) (w : World κ)
    (j : LinkId) :
    (givenUp base k latest w).network.sentOver j = w.network.sentOver j ++
      if j = k ∧ w.network.isOpen k = true then [⟨.abandon latest, []⟩] else [] := by
  unfold givenUp
  cases listens : w.network.isOpen k with
  | false => simp [World.warn]
  | true =>
      by_cases here : j = k
      · subst here
        cases found : w.network.link? j with
        | none => simp [Network.isOpen, found] at listens
        | some l =>
            simp [Network.send, Network.sentOver, Network.link?_modifyLink, found]
      · simp [Network.send, Network.sentOver, Network.link?_modifyLink, here, Ne.symm here]

/-- Closing a cursor whose stream is gone says nothing. -/
theorem close_ended {c : SearchCursor} (w : World κ) (ended : c.stream = none) :
    close c w = (.ok (), c.closed, w) := by
  simp only [close, Act.bind_apply, Act.self_apply, Act.update_apply, ended]
  rfl

theorem Spent.closed {c : SearchCursor} (spent : c.Spent) : c.closed = c := by
  rw [SearchCursor.closed, ← spent.1, ← spent.2]

/-- A pull talks over the connection of its cursor, and says nothing that gives a search up. -/
theorem pull_talked {k : LinkId} {controls : List Control} {c : SearchCursor} (p : Pull)
    (w : World κ) (lies : Over k controls c) :
    World.Talked (some k) (fun r => r.request.isAbandon = false) w (p.run c w).2.2 := by
  obtain ⟨t, rfl, rfl, keeps⟩ := lies.terms
  have pages : ∀ r, SentRequest.Bears t.controls t.pageSize r → r.request.isAbandon = false := by
    rintro ⟨request, sent⟩ bears
    cases request with
    | abandon target => cases bears
    | _ => rfl
  cases p with
  | hasMore =>
      rw [Pull.run, Act.map_apply]
      exact (hasMore_pages t c w keeps).2.1.mono pages
  | next =>
      rw [Pull.run, Act.map_apply]
      exact (next_pages t c w keeps).2.1.mono pages

end SearchCursor

/-! ## What is done with one cursor -/

open SearchCursor (Pull Pulled cameToEnd givenUp)

/-- What is done with a cursor by who has it. -/
inductive SearchCursor.Use where
  | pull (p : Pull)
  | close

namespace SearchCursor.Use

variable {κ : Type}

/-- Do it.  A pull is answered; a close has no answer. -/
def make : Use → Act κ SearchCursor (Option Pulled)
  | .pull p => some <$> p.run
  | .close => (fun _ => none) <$> SearchCursor.close

/-- The answer when nothing is left to answer with. -/
def exhausted : Use → Option Pulled
  | .pull p => some p.findsNothing
  | .close => none

/-- Whether the search is over by this: a pull came upon its end, or it was given up. -/
def finishes : Except Failure (Option Pulled) → Bool
  | .ok none => true
  | .ok (some p) => cameToEnd (.ok p)
  | .error f => cameToEnd (.error f)

theorem finishes_pull (outcome : Except Failure Pulled) :
    finishes (outcome.map some) = cameToEnd outcome := by
  cases outcome <;> rfl

/-- A spent cursor answers at once, and everything stays as it was. -/
theorem make_spent (u : Use) {c : SearchCursor} (w : World κ) (spent : c.Spent) :
    u.make c w = (.ok u.exhausted, c, w) := by
  cases u with
  | pull p =>
      rw [make, Act.map_apply, pull_spent p w spent]
      rfl
  | close =>
      rw [make, Act.map_apply, close_ended w spent.1, spent.closed]
      rfl

end SearchCursor.Use

open SearchCursor (Use)

/-- What an operation asks for gives no search up. -/
theorem Purpose.keeps_searches {c : LdapDirContext} {op : Op} {r : SentRequest}
    (allows : (c.purpose op).Allows r) : r.request.isAbandon = false := by
  obtain ⟨request, controls⟩ := r
  cases request with
  | abandon target => cases op <;> cases allows
  | _ => rfl

/-- What a move does with the cursor in place `j`, if it does anything with it but drop it. -/
def Move.uses? (j : Nat) : Move → Option Use
  | .hasMore i => if i = j then some (.pull .hasMore) else none
  | .next i => if i = j then some (.pull .next) else none
  | .closeCursor i => if i = j then some .close else none
  | _ => none

/-- Whether a move closes a cursor. -/
def Move.closesCursor : Move → Bool
  | .closeCursor _ => true
  | _ => false

namespace Fleet

variable {κ : Type} {f : Fleet κ} {j : Nat} {m : Move}

/-- A use of a cursor in a fleet, with what came of it. -/
structure Reading (κ : Type) where
  use : Use
  outcome : Except Failure (Option Pulled)
  before : Fleet κ
  after : Fleet κ

/-- The use that a move makes of the cursor in place `j`, if the cursor is there. -/
def reading? (f : Fleet κ) (j : Nat) (m : Move) : Option (Reading κ) :=
  match m.uses? j, f.cursors[j]? with
  | some u, some (some cursor) => some ⟨u, (u.make cursor f.world).1, f, f.step m⟩
  | _, _ => none

/-- The uses of the cursor in place `j` along a run. -/
def readings (j : Nat) : List Move → Fleet κ → List (Reading κ)
  | [], _ => []
  | m :: later, f => (f.reading? j m).toList ++ readings j later (f.step m)

namespace Reading

/-- Whether the search is over by this use. -/
def ends (r : Reading κ) : Bool := Use.finishes r.outcome

/-- The places that a use took on a connection. -/
def places (k : LinkId) (r : Reading κ) : List Nat :=
  r.before.world.network.places k r.after.world.network

/-- What a use sent over a connection. -/
def said (k : LinkId) (r : Reading κ) : List SentRequest :=
  (r.after.sentOver k).drop (r.before.sentOver k).length

theorem said_eq {k : LinkId} {r : Reading κ} {more : List SentRequest}
    (sent : r.after.sentOver k = r.before.sentOver k ++ more) : r.said k = more := by
  rw [said, sent, List.drop_left]

end Reading

/-- Who uses a cursor changes it, and the world. -/
theorem step_uses {u : Use} {cursor : SearchCursor} (uses : m.uses? j = some u)
    (found : f.cursors[j]? = some (some cursor)) :
    f.step m =
      { f with
        cursors := f.cursors.set j (some (u.make cursor f.world).2.1)
        world := (u.make cursor f.world).2.2 } := by
  cases m with
  | hasMore i =>
      obtain ⟨rfl, made⟩ := Option.ite_some_none_eq_some.1 uses
      rw [← made, Use.make, Pull.run, Act.map_apply, Act.map_apply]
      simp only [step, onCursor, found]
  | next i =>
      obtain ⟨rfl, made⟩ := Option.ite_some_none_eq_some.1 uses
      rw [← made, Use.make, Pull.run, Act.map_apply, Act.map_apply]
      simp only [step, onCursor, found]
  | closeCursor i =>
      obtain ⟨rfl, made⟩ := Option.ite_some_none_eq_some.1 uses
      rw [← made, Use.make, Act.map_apply]
      simp only [step, onCursor, found]
  | _ => cases uses

/-- Whoever is handed out comes after those who are there. -/
theorem join_cursors {f' : Fleet κ} (same : f'.cursors = f.cursors)
    (r : Except Failure (Reply LdapDirContext SearchCursor)) :
    f.cursors <+: (f'.join r).cursors := by
  rw [← same]
  unfold join
  split
  · exact List.prefix_refl _
  · exact List.prefix_append _ _
  · exact List.prefix_refl _

/-- The cursor in place `j` is the one it was, or was dropped. -/
def Stays (j : Nat) (f f' : Fleet κ) : Prop :=
  j < f'.cursors.length ∧ ∀ cursor, f'.cursors[j]? = some (some cursor) →
    f.cursors[j]? = some (some cursor)

/-- Others may come behind it. -/
theorem Stays.behind {f' : Fleet κ} (made : j < f.cursors.length)
    (behind : f.cursors <+: f'.cursors) : Stays j f f' := by
  obtain ⟨more, joined⟩ := behind
  rw [Stays, ← joined, List.length_append, List.getElem?_append_left made]
  exact ⟨Nat.lt_add_right _ made, fun _ => id⟩

/-- Another one may change. -/
theorem Stays.set {f' : Fleet κ} {i : Nat} {c : Option SearchCursor} (made : j < f.cursors.length)
    (dropped : i = j → c = none) (same : f'.cursors = f.cursors.set i c) : Stays j f f' := by
  rw [Stays, same, List.length_set]
  refine ⟨made, fun cursor found => ?_⟩
  by_cases here : i = j
  · subst here
    rw [List.getElem?_set_self made, dropped rfl] at found
    cases found
  · rwa [List.getElem?_set_ne here] at found

theorem reading?_none (unused : f.reading? j m = none) {u : Use} (uses : m.uses? j = some u)
    (cursor : SearchCursor) : f.cursors[j]? ≠ some (some cursor) := by
  intro found
  simp [reading?, uses, found] at unused

/-- Where no use is made of a cursor it stays as it is, or is dropped. -/
theorem step_unused (unused : f.reading? j m = none) (made : j < f.cursors.length) :
    Stays j f (f.step m) := by
  have idle : Stays j f f := .behind made (List.prefix_refl _)
  have pulled : ∀ {i : Nat} {u : Use}, (i = j → m.uses? j = some u) → ∀ {α : Type}
      (x : Act κ SearchCursor α), Stays j f (f.onCursor i x) := by
    intro i u used α x
    rcases f.onCursor_cases i x with same | ⟨cursor, found, done⟩
    · rw [same]
      exact idle
    · have other : i ≠ j := by
        rintro rfl
        exact reading?_none unused (used rfl) cursor found
      rw [done]
      exact .set made (fun here => absurd here other) rfl
  cases m with
  | openAt url base config credentials env controls =>
      simp only [step]
      refine .behind made (join_cursors ?_ _)
      rfl
  | perform i op =>
      simp only [step]
      rcases f.onContext_cases i (LdapDirContext.perform op) with same | ⟨c, found, done⟩
      · rw [same]
        exact idle
      · rw [done]
        refine .behind made (join_cursors ?_ _)
        rfl
  | close i =>
      simp only [step]
      rcases f.onContext_cases i LdapDirContext.close with same | ⟨c, found, done⟩
      · rw [same]
        exact idle
      · rw [done]
        exact .behind made (List.prefix_refl _)
  | drop i =>
      simp only [step]
      split <;> exact .behind made (List.prefix_refl _)
  | hasMore i => exact pulled (fun here => if_pos here) _
  | next i => exact pulled (fun here => if_pos here) _
  | closeCursor i => exact pulled (fun here => if_pos here) _
  | dropCursor i =>
      simp only [step]
      split
      · exact .set made (fun _ => rfl) rfl
      · exact idle
  | withSlot slot => exact .behind made (List.prefix_refl _)

/-! ## Who sends abandon requests -/

/-- **Only closing a cursor gives a search up.**  Nothing else that is done to a fleet sends an
abandon request, over any connection; and whatever is sent comes after what was sent. -/
theorem step_abandons (sound : f.Sound) (m : Move) :
    f.world.network.Said (fun r => m.closesCursor = true ∨ r.request.isAbandon = false)
      (f.step m).world.network := by
  have pulls : ∀ {α : Type} (i : Nat) (p : Pull) (x : Act κ SearchCursor α),
      (∀ c w, (p.run c w).2 = (x c w).2) → f.world.network.Said
        (fun r => m.closesCursor = true ∨ r.request.isAbandon = false)
        (f.onCursor i x).world.network := by
    intro α i p x same
    rcases f.onCursor_cases i x with idle | ⟨cursor, found, done⟩
    · rw [idle]
      exact .refl _
    · obtain ⟨controls, lies⟩ := sound.cursors cursor (List.mem_of_getElem? found)
      have talked := SearchCursor.pull_talked p f.world lies
      rw [same] at talked
      rw [done]
      exact talked.network.said.mono fun _ => .inr
  cases m with
  | openAt url base config credentials env controls =>
      simp only [step, join_world]
      have begins : ∀ r : SentRequest, r.Begins credentials controls →
          r.request.isAbandon = false := by
        rintro r (rfl | rfl) <;> rfl
      rcases LdapDirContext.openAt_network url base config credentials env controls () f.world with
        ⟨failure, w', failed, grown⟩ | ⟨c, k, w', opened, on, grown⟩
      · rw [failed]
        exact grown.said.mono fun r met => .inr (begins r met)
      · rw [opened]
        exact grown.said.mono fun r met => .inr (begins r met)
  | perform i op =>
      simp only [step]
      rcases f.onContext_cases i (LdapDirContext.perform op) with idle | ⟨c, found, done⟩
      · rw [idle]
        exact .refl _
      · rw [done]
        simp only [join_world]
        exact (LdapDirContext.perform_said op c f.world).mono fun r allows =>
          .inr (Purpose.keeps_searches allows)
  | close i =>
      simp only [step]
      rcases f.onContext_cases i LdapDirContext.close with idle | ⟨c, found, done⟩
      · rw [idle]
        exact .refl _
      · obtain ⟨w', closed, network⟩ := c.close_network f.world
        rw [done, closed]
        change Network.Said _ _ w'.network
        rw [network]
        exact Network.said_released (.inr rfl) _ _
  | drop i =>
      simp only [step]
      split
      · next c found =>
          change Network.Said _ _ (c.discard f.world).network
          rw [c.discard_network]
          exact Network.said_shares _ (fun count => count - 1) _
      · exact .refl _
  | hasMore i =>
      exact pulls i .hasMore SearchCursor.hasMore fun c w => by rw [Pull.run, Act.map_apply]
  | next i => exact pulls i .next SearchCursor.next fun c w => by rw [Pull.run, Act.map_apply]
  | closeCursor i =>
      rcases f.onCursor_cases i SearchCursor.close with idle | ⟨cursor, found, done⟩
      · simp only [step, idle]
        exact .refl _
      · obtain ⟨controls, lies⟩ := sound.cursors cursor (List.mem_of_getElem? found)
        simp only [step, done]
        exact (SearchCursor.close_reads cursor f.world lies).2.1.network.said.mono fun _ _ =>
          .inl rfl
  | dropCursor i =>
      simp only [step]
      split
      · next cursor found => exact Network.said_shares (some cursor.link) (fun count => count - 1) _
      · exact .refl _
  | withSlot slot => exact .refl _

/-! ## The search of a cursor along a run -/

open Client (SearchStream)

/-- What a use of a cursor comes to, when its search took these places before, and was over already
or not. -/
structure Reading.Fits (s : SearchStream) (taken : List Nat) (ended : Bool) (r : Reading κ) :
    Prop where
  /-- A pull asks for nothing but further pages. -/
  pulls : ∀ p, r.use = .pull p → ended = false → ∃ pages,
    r.after.sentOver s.link = r.before.sentOver s.link ++ pages ∧
      ∀ x ∈ pages, ∃ cookie, x = s.page cookie
  /-- Closing never fails. -/
  closes : r.use = .close → r.outcome = .ok none
  /-- Closing a search that runs gives it up by its latest request, and does nothing else. -/
  abandons : r.use = .close → ended = false → ∃ latest, taken.getLast? = some latest ∧
    (∃ cookie, (r.before.sentOver s.link)[latest]? = some (s.page cookie)) ∧
    r.after.world = givenUp s.request.base s.link latest r.before.world
  /-- Once the search is over there are no more entries, and nothing is read, sent or changed. -/
  finished : ended = true → r.outcome = .ok r.use.exhausted ∧ r.after = r.before
  elsewhere : ∀ k, k ≠ s.link → r.after.sentOver k = r.before.sentOver k

/-- The places that a search took, from its start to the last of these uses. -/
def taken (s : SearchStream) (start : List Nat) (uses : List (Reading κ)) : List Nat :=
  start ++ uses.flatMap (Reading.places s.link)

/-- Whether a search is over after these uses. -/
def ended (uses : List (Reading κ)) : Bool := uses.any Reading.ends

theorem taken_concat (s : SearchStream) (start : List Nat) (uses : List (Reading κ))
    (r : Reading κ) : taken s start (uses ++ [r]) = taken s start uses ++ r.places s.link := by
  simp [taken]

theorem ended_concat (uses : List (Reading κ)) (r : Reading κ) :
    ended (uses ++ [r]) = (ended uses || r.ends) := by
  simp [ended]

/-- What holds of the cursor in place `j` after these uses of it, as long as it is there. -/
structure Tracked (s : SearchStream) (start : List Nat) (j : Nat) (uses : List (Reading κ))
    (f : Fleet κ) : Prop where
  sound : f.Sound
  made : j < f.cursors.length
  own : ∀ cursor, f.cursors[j]? = some (some cursor) →
    cursor.link = s.link ∧ cursor.base = s.request.base
  /-- A stream that is there remembers the place its search took last. -/
  running : ∀ cursor t, f.cursors[j]? = some (some cursor) → cursor.stream = some t →
    t.toSearch = s.toSearch ∧ ended uses = false ∧ (taken s start uses).getLast? = some t.latest ∧
      ∃ cookie, (f.sentOver s.link)[t.latest]? = some (s.page cookie)
  spent : ∀ cursor, f.cursors[j]? = some (some cursor) → cursor.stream = none →
    cursor.Spent ∧ ended uses = true

namespace Tracked

variable {s : SearchStream} {start : List Nat} {uses : List (Reading κ)}

/-- Whatever else is done, the cursor stays as it is, or is dropped. -/
theorem passes (tracked : Tracked s start j uses f) (unused : f.reading? j m = none) :
    Tracked s start j uses (f.step m) := by
  obtain ⟨made, same⟩ := step_unused unused tracked.made
  obtain ⟨more, sent, -⟩ := step_abandons tracked.sound m s.link
  refine ⟨step_sound tracked.sound m, made, fun cursor found => tracked.own _ (same _ found),
    fun cursor t found running => ?_, fun cursor found => tracked.spent _ (same _ found)⟩
  obtain ⟨continues, on, latest, cookie, there⟩ := tracked.running _ t (same _ found) running
  refine ⟨continues, on, latest, cookie, ?_⟩
  have inside := (List.getElem?_eq_some_iff.1 there).1
  change ((f.step m).world.network.sentOver s.link)[t.latest]? = _
  rw [sent]
  exact (List.getElem?_append_left inside).trans there

/-- It is enough to know of the cursor that is there. -/
theorem of_cursor {cursor : SearchCursor} (sound : f.Sound)
    (found : f.cursors[j]? = some (some cursor))
    (own : cursor.link = s.link ∧ cursor.base = s.request.base)
    (running : ∀ t, cursor.stream = some t → t.toSearch = s.toSearch ∧ ended uses = false ∧
      (taken s start uses).getLast? = some t.latest ∧
        ∃ cookie, (f.sentOver s.link)[t.latest]? = some (s.page cookie))
    (spent : cursor.stream = none → cursor.Spent ∧ ended uses = true) :
    Tracked s start j uses f := by
  have only : ∀ c, f.cursors[j]? = some (some c) → c = cursor := by
    intro c there
    rw [found] at there
    exact (Option.some.inj (Option.some.inj there)).symm
  refine ⟨sound, (List.getElem?_eq_some_iff.1 found).1, fun c there => ?_, fun c t there => ?_,
    fun c there => ?_⟩
  · rw [only c there]
    exact own
  · rw [only c there]
    exact running t
  · rw [only c there]
    exact spent

section Uses

variable {cursor : SearchCursor} {t : SearchStream}

/-- The use that a move makes of a cursor. -/
abbrev used (f : Fleet κ) (m : Move) (u : Use) (cursor : SearchCursor) : Reading κ :=
  ⟨u, (u.make cursor f.world).1, f, f.step m⟩

theorem step_found {u : Use} (uses : m.uses? j = some u)
    (found : f.cursors[j]? = some (some cursor)) :
    (f.step m).cursors[j]? = some (some (u.make cursor f.world).2.1) ∧
      (f.step m).world = (u.make cursor f.world).2.2 := by
  have inside := (List.getElem?_eq_some_iff.1 found).1
  rw [step_uses uses found]
  exact ⟨List.getElem?_set_self inside, rfl⟩

/-- A cursor whose search is over is left as it is by whatever is done with it. -/
theorem uses_spent {u : Use} (tracked : Tracked s start j uses f) (makes : m.uses? j = some u)
    (found : f.cursors[j]? = some (some cursor)) (gone : cursor.stream = none) :
    (used f m u cursor).Fits s (taken s start uses) (ended uses) ∧
      Tracked s start j (uses ++ [used f m u cursor]) (f.step m) := by
  obtain ⟨spent, done⟩ := tracked.spent cursor found gone
  have made := u.make_spent f.world spent
  have still : f.step m = f := by
    have same : f.cursors.set j (some cursor) = f.cursors := by
      obtain ⟨inside, there⟩ := List.getElem?_eq_some_iff.1 found
      rw [← there, List.set_getElem_self]
    rw [step_uses makes found, made]
    dsimp only
    rw [same]
  have outcome : (used f m u cursor).outcome = .ok u.exhausted := congrArg Prod.fst made
  constructor
  · refine ⟨fun p pulls on => ?_, fun closes => ?_, fun closes on => ?_, fun _ => ⟨outcome, still⟩,
      fun k other => ?_⟩
    · rw [done] at on
      cases on
    · obtain rfl : u = .close := closes
      exact outcome
    · rw [done] at on
      cases on
    · change (f.step m).sentOver k = f.sentOver k
      rw [still]
  · have found' : (f.step m).cursors[j]? = some (some cursor) := by rw [still, found]
    refine .of_cursor (step_sound tracked.sound m) found' (tracked.own cursor found) ?_ ?_
    · intro t running
      rw [gone] at running
      cases running
    · intro _
      rw [ended_concat, done]
      exact ⟨spent, rfl⟩

/-- A pull of a search that runs asks for pages, and remembers the last of them. -/
theorem uses_pull {p : Pull} (tracked : Tracked s start j uses f)
    (makes : m.uses? j = some (.pull p)) (found : f.cursors[j]? = some (some cursor))
    (running : cursor.stream = some t) :
    (used f m (.pull p) cursor).Fits s (taken s start uses) (ended uses) ∧
      Tracked s start j (uses ++ [used f m (.pull p) cursor]) (f.step m) := by
  obtain ⟨continues, on, latest, there⟩ := tracked.running cursor t found running
  obtain ⟨place, world⟩ := step_found makes found
  have pulls := SearchCursor.pull_readsOn p f.world running
  obtain ⟨controls, lies⟩ := tracked.sound.cursors cursor (List.mem_of_getElem? found)
  have talked := SearchCursor.pull_talked p f.world lies
  have made : (Use.pull p).make cursor f.world =
      ((p.run cursor f.world).1.map some, (p.run cursor f.world).2) := Act.map_apply _ _ _ _
  have ends : (used f m (.pull p) cursor).ends = cameToEnd (p.run cursor f.world).1 := by
    change Use.finishes ((Use.pull p).make cursor f.world).1 = _
    rw [made, Use.finishes_pull]
  rw [made] at place world
  generalize p.run cursor f.world = y at pulls talked ends place world
  obtain ⟨link, base, advances, spent⟩ := pulls
  obtain ⟨line, below⟩ := tracked.own cursor found
  obtain ⟨es, last, said, turned, -⟩ := advances.said
  have sent : (f.step m).sentOver s.link = f.sentOver s.link ++ es.map Exchange.sent := by
    change (f.step m).world.network.sentOver s.link = f.world.network.sentOver s.link ++ _
    rw [world, ← continues]
    exact said.sentOver
  refine ⟨⟨fun _ _ _ => ⟨_, sent, fun x among => ?_⟩, fun closes => ?_, fun closes => ?_,
    fun ended => ?_, fun k other => ?_⟩, ?_⟩
  · obtain ⟨e, asked, rfl⟩ := List.mem_map.1 among
    obtain ⟨cookie, page⟩ := turned.pages e asked
    exact ⟨cookie, by rw [page, continues]⟩
  · cases closes
  · cases closes
  · rw [on] at ended
    cases ended
  · change (f.step m).world.network.sentOver k = f.world.network.sentOver k
    rw [world]
    rw [line] at talked
    exact talked.network.elsewhere other
  · refine .of_cursor (step_sound tracked.sound m) place
      ⟨link.trans line, base.trans below⟩ (fun t' still => ?_) fun gone => ?_
    · obtain ⟨same, turn⟩ := advances.onward t' still
      obtain ⟨cookie, asked⟩ := advances.asked (s := t)
        (by
          obtain ⟨cookie, asked⟩ := there
          exact ⟨cookie, by rw [continues]; exact asked⟩) t' still
      refine ⟨same.trans continues, ?_, ?_, cookie, ?_⟩
      · have unfinished : cameToEnd y.1 = false := by
          rw [← Bool.not_eq_true, ← advances.gone, still]
          exact Option.some_ne_none t'
        rw [ended_concat, on, ends, unfinished]
        rfl
      · rw [taken_concat, List.getLast?_append, latest, Option.or_some, turn, ← continues, ← world]
        rfl
      · rw [continues, ← world] at asked
        exact asked
    · refine ⟨⟨gone, spent gone⟩, ?_⟩
      rw [ended_concat, ends, advances.gone.1 gone, Bool.or_true]

/-- Closing a search that runs gives it up, and it is over. -/
theorem uses_close (tracked : Tracked s start j uses f) (makes : m.uses? j = some .close)
    (found : f.cursors[j]? = some (some cursor)) (running : cursor.stream = some t) :
    (used f m .close cursor).Fits s (taken s start uses) (ended uses) ∧
      Tracked s start j (uses ++ [used f m .close cursor]) (f.step m) := by
  obtain ⟨-, on, latest, there⟩ := tracked.running cursor t found running
  obtain ⟨place, world⟩ := step_found makes found
  obtain ⟨link, base⟩ := tracked.own cursor found
  have made : Use.close.make cursor f.world =
      (.ok none, cursor.closed, givenUp s.request.base s.link t.latest f.world) := by
    rw [Use.make, Act.map_apply, SearchCursor.close_running f.world running, link, base]
    rfl
  have outcome : (used f m .close cursor).outcome = .ok none := congrArg Prod.fst made
  rw [made] at place world
  refine ⟨⟨fun p pulls => ?_, fun _ => outcome, fun _ _ => ⟨_, latest, there, world⟩,
    fun ended => ?_, fun k other => ?_⟩, ?_⟩
  · cases pulls
  · rw [on] at ended
    cases ended
  · change (f.step m).world.network.sentOver k = f.world.network.sentOver k
    rw [world, SearchCursor.givenUp_sentOver, if_neg fun both => other both.1, List.append_nil]
  · refine .of_cursor (step_sound tracked.sound m) place ⟨link, base⟩ (fun t' still => ?_) fun _ => ?_
    · cases still
    · refine ⟨⟨rfl, rfl⟩, ?_⟩
      rw [ended_concat, Reading.ends, outcome, Use.finishes, Bool.or_true]

end Uses

/-- **One use.**  It is what the search allows, and the cursor is tracked from then on. -/
theorem reads {r : Reading κ} (tracked : Tracked s start j uses f)
    (made : f.reading? j m = some r) :
    r.Fits s (taken s start uses) (ended uses) ∧ Tracked s start j (uses ++ [r]) (f.step m) := by
  unfold reading? at made
  split at made
  · next u cursor makes found =>
      obtain rfl := Option.some.inj made
      cases running : cursor.stream with
      | none => exact tracked.uses_spent makes found running
      | some t =>
          cases u with
          | pull p => exact tracked.uses_pull makes found running
          | close => exact tracked.uses_close makes found running
  · cases made

/-- **Every use along a run** is what the search allows. -/
theorem runs (tracked : Tracked s start j uses f) {moves : List Move}
    {earlier later : List (Reading κ)} {r : Reading κ}
    (split : readings j moves f = earlier ++ r :: later) :
    r.Fits s (taken s start (uses ++ earlier)) (ended (uses ++ earlier)) := by
  induction moves generalizing f uses earlier with
  | nil =>
      rw [readings] at split
      cases earlier <;> cases split
  | cons m rest ih =>
      rw [readings] at split
      cases made : f.reading? j m with
      | none =>
          rw [made] at split
          exact ih (tracked.passes made) split
      | some first =>
          obtain ⟨fits, next⟩ := tracked.reads made
          rw [made] at split
          cases earlier with
          | nil =>
              obtain rfl := (List.cons.inj split).1
              rwa [List.append_nil]
          | cons r' earlier =>
              obtain ⟨rfl, rest⟩ := List.cons.inj split
              rw [List.append_cons]
              exact ih next rest

end Tracked

/-! ## How often a search is given up -/

section Count

variable {s : SearchStream} {r : Reading κ}

/-- How many abandon requests some uses sent over a connection. -/
def abandonsOver (k : LinkId) (rs : List (Reading κ)) : Nat :=
  (rs.flatMap (Reading.said k)).countP fun x => x.request.isAbandon

theorem abandonsOver_cons (k : LinkId) (r : Reading κ) (rs : List (Reading κ)) :
    abandonsOver k (r :: rs) = abandonsOver k [r] + abandonsOver k rs := by
  simp [abandonsOver]

theorem abandonsOver_eq {k : LinkId} {more : List SentRequest}
    (sent : r.after.sentOver k = r.before.sentOver k ++ more) :
    abandonsOver k [r] = more.countP fun x => x.request.isAbandon := by
  rw [abandonsOver, List.flatMap_singleton, Reading.said_eq sent]

/-- How often a search may still be given up over a connection. -/
def chances (s : SearchStream) (ended : Bool) (k : LinkId) : Nat :=
  if k = s.link ∧ ended = false then 1 else 0

/-- A use that gives a search up takes the chance to. -/
theorem Reading.Fits.abandons_le {places : List Nat} {ended : Bool}
    (fits : r.Fits s places ended) (k : LinkId) :
    abandonsOver k [r] + chances s (ended || r.ends) k ≤ chances s ended k := by
  have silent : r.after.sentOver k = r.before.sentOver k →
      abandonsOver k [r] + chances s (ended || r.ends) k ≤ chances s ended k := by
    intro same
    rw [abandonsOver_eq (same.trans (List.append_nil _).symm), List.countP_nil, Nat.zero_add]
    unfold chances
    cases ended <;> cases r.ends <;> simp
  by_cases here : k = s.link
  · subst here
    cases ended with
    | true => exact silent (by rw [(fits.finished rfl).2])
    | false =>
        cases use : r.use with
        | pull p =>
            obtain ⟨pages, sent, asked⟩ := fits.pulls p use rfl
            have none : pages.countP (fun x => x.request.isAbandon) = 0 := by
              refine List.countP_eq_zero.2 fun x among => ?_
              obtain ⟨cookie, rfl⟩ := asked x among
              exact Bool.false_ne_true
            rw [abandonsOver_eq sent, none, Nat.zero_add]
            unfold chances
            cases r.ends <;> simp
        | close =>
            obtain ⟨latest, -, -, world⟩ := fits.abandons use rfl
            have ends : r.ends = true := by
              rw [Reading.ends, fits.closes use, Use.finishes]
            have sent : r.after.sentOver s.link = _ :=
              (congrArg (fun w => w.network.sentOver s.link) world).trans
                (SearchCursor.givenUp_sentOver _ s.link latest _ _)
            rw [abandonsOver_eq sent, ends]
            split <;> simp [chances, Request.isAbandon]
  · exact silent (fits.elsewhere k here)

/-- **At most once.**  All uses together take no more chances than there are. -/
theorem abandons_le {start : List Nat} {uses rs : List (Reading κ)}
    (fits : ∀ {earlier r later}, rs = earlier ++ r :: later →
      r.Fits s (taken s start (uses ++ earlier)) (ended (uses ++ earlier))) (k : LinkId) :
    abandonsOver k rs + chances s (ended (uses ++ rs)) k ≤
      chances s (ended uses) k := by
  induction rs generalizing uses with
  | nil => simp [abandonsOver]
  | cons r rest ih =>
      have fit : r.Fits s _ (ended (uses ++ [])) := fits (List.nil_append _).symm
      rw [List.append_nil] at fit
      have first := fit.abandons_le k
      have later := @ih (uses ++ [r]) fun {earlier r' later} split => by
        have among : r :: rest = (r :: earlier) ++ r' :: later := by rw [split]; rfl
        have fit := fits among
        rwa [List.append_cons] at fit
      rw [ended_concat, ← List.append_cons] at later
      rw [abandonsOver_cons]
      omega

end Count

/-! ## Every search of every run -/

/-- The cursor that a context hands out is tracked from its first page on. -/
theorem handed_tracked (sound : f.Sound) {i : Nat} {op : Op} {cursor : SearchCursor}
    (handed : (f.onContext i (LdapDirContext.perform op)).1 = some (.ok (.entries cursor))) :
    let g := f.step (.perform i op)
    ∃ c s, f.contexts[i]? = some (some c) ∧ c.connection = some s.link ∧
      g.cursors[f.cursors.length]? = some (some cursor) ∧ cursor.stream = some s ∧
      g.sentOver s.link = f.sentOver s.link ++ [s.page []] ∧
      Tracked s [(f.sentOver s.link).length] f.cursors.length [] g := by
  intro g
  rcases f.onContext_cases i (LdapDirContext.perform op) with idle | ⟨c, found, done⟩
  · rw [idle] at handed
    cases handed
  · rcases performed : LdapDirContext.perform op c f.world with ⟨outcome, c', w'⟩
    rw [performed] at done
    rw [done] at handed
    obtain rfl : outcome = .ok (.entries cursor) := Option.some.inj handed
    have next : g = join { f with contexts := f.contexts.set i (some c'), world := w' }
        (.ok (.entries cursor)) := by
      simp only [g, step, done]
    obtain ⟨name, filter, controls, searched⟩ := LdapDirContext.perform_searches performed
    have begun := LdapDirContext.search_begun name filter controls c f.world
    rw [searched] at begun
    cases begun with
    | @asked k s tree _ held serves latest _ _ said =>
        obtain rfl := serves.link
        have base : s.request.base = c.resolve name := by
          rw [serves.request]
          rfl
        have there : g.cursors[f.cursors.length]? =
            some (some (.new s.link s (c.resolve name) c.origin)) := by
          rw [next]
          exact List.getElem?_concat_length
        have sent : g.sentOver s.link = f.sentOver s.link ++ [s.page []] := by
          rw [next]
          exact said.sentOver
        have place : s.latest = (f.sentOver s.link).length :=
          latest.trans (Network.sentCount_eq ..)
        refine ⟨c, s, found, held, there, rfl, sent,
          .of_cursor (step_sound sound _) there ⟨rfl, base.symm⟩ (fun t running => ?_)
            fun gone => ?_⟩
        · obtain rfl := Option.some.inj running
          refine ⟨rfl, rfl, ?_, [], ?_⟩
          · rw [place]
            rfl
          · rw [sent, place]
            exact List.getElem?_concat_length
        · cases gone

/-- **A search is given up at most once, and only while it runs.**  After any run of a fleet a
context starts a search.  Then whatever is done with its cursor and with everything else, the
context closed, reconnected or dropped at any point, every use of the cursor fits its search, one
of them at most sends an abandon request, and that over the connection of the search; and nothing
but closing a cursor sends one at all. -/
theorem abandoned_once (w : World κ) (before : List Move) (i : Nat) (op : Op)
    (cursor : SearchCursor)
    (handed : (((fresh w).run before).onContext i (LdapDirContext.perform op)).1 =
      some (.ok (.entries cursor))) :
    let f := (fresh w).run before
    let g := f.step (.perform i op)
    let j := f.cursors.length
    ∃ c s, f.contexts[i]? = some (some c) ∧ c.connection = some s.link ∧
      g.cursors[j]? = some (some cursor) ∧ cursor.stream = some s ∧
      g.sentOver s.link = f.sentOver s.link ++ [s.page []] ∧
      ∀ moves,
        (∀ earlier r later, readings j moves g = earlier ++ r :: later →
          r.Fits s (taken s [(f.sentOver s.link).length] earlier) (ended earlier)) ∧
        (∀ k, abandonsOver k (readings j moves g) ≤ if k = s.link then 1 else 0) ∧
        ∀ earlier m later, moves = earlier ++ m :: later → m.closesCursor = false →
          (g.run earlier).world.network.Said (fun r => r.request.isAbandon = false)
            ((g.run earlier).step m).world.network := by
  intro f g j
  have sound : f.Sound := run_sound (fresh_sound w) before
  obtain ⟨c, s, found, held, there, running, sent, tracked⟩ := handed_tracked sound handed
  refine ⟨c, s, found, held, there, running, sent, fun moves => ⟨?_, fun k => ?_, ?_⟩⟩
  · exact fun earlier r later split => tracked.runs split
  · have most : abandonsOver k (readings j moves g) + _ ≤ chances s (ended []) k :=
      abandons_le (fun split => tracked.runs split) k
    simpa only [chances, ended, List.any_nil, and_true] using Nat.le_of_add_right_le most
  · intro earlier m later _ other
    have said := step_abandons (run_sound (f := g) (step_sound sound _) earlier) m
    exact said.mono fun r either => either.resolve_left (Bool.eq_false_iff.1 other)

/-- The context is closed while its search runs; the cursor is closed twice and asked once more. -/
theorem abandoned_once_of_closed_context :
    let f := (fresh oneServer).run [connects]
    let g := f.step (searches 0)
    let moves := [Move.close 0, .closeCursor 0, .closeCursor 0, .next 0]
    ∃ cursor s, g.cursors[0]? = some (some cursor) ∧ cursor.stream = some s ∧
      (∀ earlier r later, readings 0 moves g = earlier ++ r :: later →
        r.Fits s (taken s [(f.sentOver s.link).length] earlier) (ended earlier)) ∧
      abandonsOver s.link (readings 0 moves g) ≤ 1 := by
  intro f g moves
  have hands : (f.onContext 0 (LdapDirContext.perform SearchCursor.searchAllBelow)).1.any
      SearchCursor.handsCursor = true := by
    decide +kernel
  obtain ⟨outcome, answered, hands⟩ := (Option.any_eq_true ..).1 hands
  obtain ⟨cursor, rfl⟩ := SearchCursor.exists_of_handsCursor hands
  obtain ⟨-, s, -, -, there, running, -, along⟩ :=
    abandoned_once oneServer [connects] 0 SearchCursor.searchAllBelow cursor answered
  obtain ⟨fits, most, -⟩ := along moves
  refine ⟨cursor, s, there, running, fits, ?_⟩
  have own := most s.link
  rwa [if_pos rfl] at own

example : (((fresh oneServer).run [connects, searches 0, .close 0, .closeCursor 0, .closeCursor 0,
    .next 0]).sentOver 0).countP (fun r => r.request.isAbandon) = 1 := by
  decide +kernel

end Fleet

end ManagedLdap
