/-
# ManagedLdap.Proofs.Ldap.Unbind -- when a connection is unbound, and by whom

The two sides of sharing a connection.  It is never unbound too early: an unbind request is the
last request of its connection, sent by the only holder when it closes or reconnects, and nobody
holds the connection ever after (`no_use_after_unbind`).

It is not always unbound in the end, though.  When the contexts of a connection were all closed
or moved away, the last one to go has sent the unbind request exactly if no cursor was left over
the connection and the server still listened (`unbound_by_last_departure`): a cursor keeps a
connection from being unbound, and says nothing when it goes itself.
-/
import ManagedLdap.Proofs.Ldap.Fleet

namespace ManagedLdap.Fleet

set_option autoImplicit false

variable {κ : Type}

/-! ## No use after unbind -/

/-- A connection is held by another context than that of the place, or by a cursor. -/
def HeldBesides (f : Fleet κ) (i : Nat) (k : LinkId) : Prop :=
  (∃ j c, j ≠ i ∧ f.contexts[j]? = some (some c) ∧ c.connection = some k) ∨
    ∃ (j : Nat) (cursor : SearchCursor), f.cursors[j]? = some (some cursor) ∧ cursor.link = k

/-- A move that closes or reconnects the context of a place. -/
def Leaves (m : Move) (i : Nat) : Prop :=
  m = .close i ∨ ∃ controls, m = .perform i (.reconnect controls)

theorem HeldBesides.holders {f : Fleet κ} {i : Nat} {k : LinkId} (besides : f.HeldBesides i k) :
    0 < f.holders k := by
  rcases besides with ⟨j, c, -, found, on⟩ | ⟨j, cursor, found, rfl⟩
  · exact Nat.add_pos_left (contextsOn_pos found on) _
  · exact Nat.add_pos_right _ (cursorsOver_pos found)

theorem HeldBesides.two {f : Fleet κ} {i : Nat} {k : LinkId} {c : LdapDirContext}
    (besides : f.HeldBesides i k) (found : f.contexts[i]? = some (some c))
    (on : c.connection = some k) : 2 ≤ f.holders k := by
  rcases besides with ⟨j, c', other, found', on'⟩ | ⟨j, cursor, found', rfl⟩
  · have change := countP_set (p := isOn k) found none
    have still : 0 < (f.contexts.set i none).countP (isOn k) := by
      refine List.countP_pos_iff.2 ⟨some c', ?_, (isOn_some k c').2 on'⟩
      refine List.mem_of_getElem? (i := j) ?_
      rw [List.getElem?_set_ne (Ne.symm other), found']
    simp only [isOn_some, on, if_true, isOn_none, Bool.false_eq_true, if_false] at change
    simp only [Fleet.holders, contextsOn]
    omega
  · have context := contextsOn_pos found on
    have cursor := cursorsOver_pos found'
    simp only [Fleet.holders]
    omega

/-- Closing and reconnecting do nothing to connections that the context does not depart from. -/
theorem leave_apart {f : Fleet κ} (sound : f.Sound) {m : Move} {i : Nat} (leaves : Leaves m i)
    {k : LinkId} (old : k < f.world.network.links.length) (stays : ¬ f.Departs m k) :
    (f.step m).world.network.link? k = f.world.network.link? k ∧
      (f.step m).contextsOn k = f.contextsOn k := by
  by_cases departs : ∃ j, f.Departs m j
  · obtain ⟨j, departs⟩ := departs
    have other : k ≠ j := by
      rintro rfl
      exact stays departs
    obtain ⟨-, -, -, -, -, -, others⟩ := departure sound departs
    obtain ⟨link, contexts, -⟩ := (others k other).2 old
    exact ⟨link, contexts⟩
  · have apart : f.Apart (f.step m).books := by
      rcases leaves with rfl | ⟨controls, rfl⟩
      · rcases f.onContext_cases i LdapDirContext.close with idle | ⟨c, found, -⟩
        · simp only [step, idle]
          exact fun _ _ => ⟨rfl, rfl⟩
        · cases on : c.connection with
          | none =>
              have after := close_books found
              rw [on] at after
              exact after ▸ fun _ _ => ⟨rfl, rfl⟩
          | some j => exact absurd ⟨j, i, c, found, on, .inl rfl⟩ departs
      · rcases f.onContext_cases i (LdapDirContext.perform (.reconnect controls)) with
          idle | ⟨c, found, -⟩
        · simp only [step, idle]
          exact fun _ _ => ⟨rfl, rfl⟩
        · obtain ⟨b, -, -, apart, after⟩ := reconnect_books sound.inOrder found controls
          cases moved : (LdapDirContext.reconnect controls c f.world).1.isOk with
          | false =>
              rw [moved] at after
              exact after ▸ apart
          | true =>
              cases on : c.connection with
              | none =>
                  rw [moved, on] at after
                  exact after ▸ apart
              | some j => exact absurd ⟨j, i, c, found, on, .inr ⟨controls, rfl, moved⟩⟩ departs
    exact apart k old

/-- A connection with another number of shares is as good as before. -/
theorem leave_undisturbed {f : Fleet κ} (sound : f.Sound) {m : Move} {i : Nat} (leaves : Leaves m i)
    {k : LinkId} (besides : f.HeldBesides i k) :
    ∃ shares, (f.step m).world.network.link? k =
      (f.world.network.link? k).map fun l => { l with shares := shares } := by
  obtain ⟨l, found, shares, -⟩ := sound.inOrder.holder besides.holders
  replace found : f.world.network.link? k = some l := found
  by_cases departs : f.Departs m k
  · refine ⟨l.shares - 1, ?_⟩
    obtain ⟨-, -, -, -, link, -, -⟩ := departure sound departs
    obtain ⟨j, c, place, on, moves⟩ := departs
    have same : j = i := by
      rcases leaves with rfl | ⟨controls, rfl⟩
      · rcases moves with closes | ⟨controls, reconnects, -⟩
        · exact (Move.close.inj closes).symm
        · cases reconnects
      · rcases moves with closes | ⟨controls', reconnects, -⟩
        · cases closes
        · exact (Move.perform.inj reconnects).1.symm
    have two : 2 ≤ l.shares := by
      rw [shares]
      exact (same ▸ besides).two place on
    have shared : ¬(l.shares = 1 ∧ l.isOpen = true) := by omega
    rw [link, found]
    simp only [Option.map_some, Link.released, if_neg shared]
    rfl
  · refine ⟨l.shares, ?_⟩
    rw [(leave_apart sound leaves (Network.link?_lt found) departs).1, found]
    rfl

/-- An unbind request is the last one of its connection, which nobody holds then. -/
theorem Sound.unbound {f : Fleet κ} (sound : f.Sound) {k : LinkId} (unbound : 0 < f.unbindsOver k) :
    f.holders k = 0 ∧ ∃ earlier last, f.sentOver k = earlier ++ [last] ∧
      last.request.isUnbind = true ∧ ∀ r ∈ earlier, r.Quiet := by
  cases found : f.world.network.link? k with
  | none => simp [unbindsOver, Network.unbindsOver, Network.sentOver, found] at unbound
  | some l =>
      rw [unbindsOver, Network.unbindsOver_of_link? found] at unbound
      rcases sound.inOrder.proper k l found with none | ⟨nobody, earlier, last, sent, isLast, quiet⟩
      · exact absurd none (Nat.pos_iff_ne_zero.1 unbound)
      · refine ⟨?_, earlier, last, ?_, isLast, fun r among => ?_⟩
        · have shares : f.world.network.shares k = f.holders k := sound.inOrder.shares k
          rw [Network.shares_of_link? found, nobody] at shares
          exact shares.symm
        · rw [sentOver, Network.sentOver_of_link? found, sent]
        · exact Bool.eq_false_iff.2 (List.countP_eq_zero.1 quiet r among)

theorem Sound.unbinds_le {f : Fleet κ} (sound : f.Sound) (k : LinkId) : f.unbindsOver k ≤ 1 := by
  cases found : f.world.network.link? k with
  | none => simp [unbindsOver, Network.unbindsOver, Network.sentOver, found]
  | some l =>
      rw [unbindsOver, Network.unbindsOver_of_link? found]
      exact (sound.inOrder.proper k l found).unbinds_le

/-- Only a departure of the only holder sends an unbind request. -/
theorem unbind_departs {f : Fleet κ} (sound : f.Sound) {m : Move} {k : LinkId}
    (sends : f.unbindsOver k < (f.step m).unbindsOver k) : f.Departs m k ∧ f.holders k = 1 := by
  by_cases departs : ∃ j, f.Departs m j
  · obtain ⟨j, departs⟩ := departs
    obtain ⟨-, -, -, -, -, unbinds, others⟩ := departure sound departs
    by_cases here : k = j
    · subst here
      refine ⟨departs, ?_⟩
      rw [unbinds] at sends
      split at sends
      · next both => exact both.1
      · exact absurd sends (Nat.not_lt_zero _)
    · exact absurd ((others k here).1 ▸ sends) (Nat.lt_irrefl _)
  · have quiet := step_quiet sound fun k departing => departs ⟨k, departing⟩
    exact absurd (quiet.unbinds k) (Nat.ne_of_gt sends)

/-- **No use after unbind.**  Contexts that share connections are opened, used, reconnected,
closed and dropped, and their cursors pulled from, closed and dropped, in any order and whatever
the servers answer.  Then over each connection at most one unbind request is sent, as the last
request of all: nobody holds the connection then or later, and nothing is sent over it any more.
Only a context sends it that departs as the only holder, context or cursor, of its connection; so
closing or reconnecting a context changes nothing but the number of shares of a connection that
another context or a cursor still holds. -/
theorem no_use_after_unbind (w : World κ) (moves : List Move) (k : LinkId) :
    let f := (fresh w).run moves
    f.unbindsOver k ≤ 1 ∧
    (0 < f.unbindsOver k →
      (∃ earlier last, f.sentOver k = earlier ++ [last] ∧ last.request.isUnbind = true ∧
        ∀ r ∈ earlier, r.Quiet) ∧
      ∀ later, (f.run later).holders k = 0 ∧ (f.run later).sentOver k = f.sentOver k) ∧
    (∀ m, f.unbindsOver k < (f.step m).unbindsOver k → f.Departs m k ∧ f.holders k = 1) ∧
    ∀ m i, Leaves m i → f.HeldBesides i k →
      ∃ shares, (f.step m).world.network.link? k =
        (f.world.network.link? k).map fun l => { l with shares := shares } := by
  intro f
  have sound : f.Sound := run_sound (fresh_sound w) moves
  refine ⟨sound.unbinds_le k, fun unbound => ?_, fun m => unbind_departs sound, fun m i leaves =>
    leave_undisturbed sound leaves⟩
  obtain ⟨nobody, last⟩ := sound.unbound unbound
  have old : k < f.world.network.links.length := by
    cases found : f.world.network.link? k with
    | none => simp [unbindsOver, Network.unbindsOver, Network.sentOver, found] at unbound
    | some l => exact Network.link?_lt found
  exact ⟨last, run_unheld sound old nobody⟩

/-! A small run: one server, which answers everything with success. -/

/-- A network with one server, which accepts one connection. -/
def oneServer : World Unit := { network := .loopback [⟨"h:389", [[]]⟩] }

/-- A context connects to that server. -/
def connects : Move := .openAt "ldap://h" "" { host := "h" } ⟨"", ""⟩ .empty []

/-- The context of a place searches. -/
def searches (i : Nat) : Move :=
  .perform i (.search "" Filter.matchAll (SearchControls.ofScope .subtree))

example : ((fresh oneServer).run [connects, searches 0, .dropCursor 0, .close 0]).unbindsOver 0 =
    1 := by
  decide +kernel

/-! ## The last departure -/

theorem contextsOn_join_le (f : Fleet κ) (r : Except Failure (Reply LdapDirContext SearchCursor))
    (k : LinkId) : f.contextsOn k ≤ (f.join r).contextsOn k := by
  unfold join
  split
  · simp only [contextsOn, List.countP_append]
    exact Nat.le_add_right _ _
  · exact Nat.le_refl _
  · exact Nat.le_refl _

/-- A context leaves its connection only by departing or by being dropped. -/
theorem step_keeps {f : Fleet κ} (sound : f.Sound) {m : Move} {k : LinkId}
    (stays : ¬ f.Departs m k)
    (undropped : ∀ i c, m = .drop i → f.contexts[i]? = some (some c) → c.connection ≠ some k) :
    f.contextsOn k ≤ (f.step m).contextsOn k := by
  rcases Nat.eq_zero_or_pos (f.contextsOn k) with none | some
  · exact none ▸ Nat.zero_le _
  have old := sound.made (Nat.add_pos_left some _)
  cases m with
  | openAt url base config credentials env connectControls =>
      simp only [step]
      generalize LdapDirContext.openAt url base config credentials env connectControls ()
        f.world = x
      exact contextsOn_join_le { f with world := x.2.2 } (x.1.map .context) k
  | perform i op =>
      rcases f.onContext_cases i (LdapDirContext.perform op) with idle | ⟨c, found, done⟩
      · simp only [step, idle]
        exact Nat.le_refl _
      · cases opens : op.opensConnection with
        | false =>
            obtain ⟨same, -⟩ := LdapDirContext.perform_shares opens c f.world
            simp only [step, done]
            refine Nat.le_trans (Nat.le_of_eq ?_) (contextsOn_join_le _ _ k)
            exact (congrFun (contextsOn_set_same found same) k).symm
        | true =>
            cases op with
            | reconnect controls =>
                exact Nat.le_of_eq (leave_apart sound (.inr ⟨controls, rfl⟩) old stays).2.symm
            | _ => cases opens
  | close i => exact Nat.le_of_eq (leave_apart sound (.inl rfl) old stays).2.symm
  | drop i =>
      simp only [step]
      split
      · next c found =>
          have change := countP_set (p := isOn k) found none
          simp only [isOn_some, undropped i c rfl found, if_false, isOn_none, Bool.false_eq_true]
            at change
          exact Nat.le_of_eq change.symm
      · exact Nat.le_refl _
  | hasMore j => exact Nat.le_of_eq (congrArg (List.countP (isOn k)) (onCursor_contexts f j _).symm)
  | next j => exact Nat.le_of_eq (congrArg (List.countP (isOn k)) (onCursor_contexts f j _).symm)
  | closeCursor j =>
      exact Nat.le_of_eq (congrArg (List.countP (isOn k)) (onCursor_contexts f j _).symm)
  | dropCursor j =>
      simp only [step]
      split
      · exact Nat.le_refl _
      · exact Nat.le_refl _
  | withSlot slot => exact Nat.le_refl _

/-- What holds at some point of a list and not at its end stops at some element. -/
theorem exists_last {α : Type} {p : List α → Prop} {xs : List α} (once : ∃ ys, ys <+: xs ∧ p ys)
    (ends : ¬ p xs) : ∃ earlier x later, xs = earlier ++ x :: later ∧ p earlier ∧
      ¬ p (earlier ++ [x]) := by
  induction xs generalizing p with
  | nil =>
      obtain ⟨ys, start, held⟩ := once
      exact absurd (List.prefix_nil.1 start ▸ held) ends
  | cons x xs ih =>
      by_cases again : ∃ ys, ys <+: xs ∧ p (x :: ys)
      · obtain ⟨earlier, y, later, rfl, held, stops⟩ := ih again ends
        exact ⟨x :: earlier, y, later, rfl, held, stops⟩
      · obtain ⟨ys, start, held⟩ := once
        cases ys with
        | nil => exact ⟨[], x, xs, rfl, held, fun one => again ⟨[], List.nil_prefix, one⟩⟩
        | cons y ys =>
            obtain ⟨rfl, start'⟩ := List.cons_prefix_cons.1 start
            exact absurd ⟨ys, start', held⟩ again

/-- Contexts were on a connection, none of them is dropped while it is on it, and in the end none
is on it any more. -/
structure AllDepart (w : World κ) (moves : List Move) (k : LinkId) : Prop where
  shared : ∃ earlier, earlier <+: moves ∧ 0 < ((fresh w).run earlier).contextsOn k
  undropped : ∀ earlier i, earlier ++ [.drop i] <+: moves →
    ∀ c, ((fresh w).run earlier).contexts[i]? = some (some c) → c.connection ≠ some k
  departed : ((fresh w).run moves).contextsOn k = 0

/-- **The last departure decides.**  When all contexts of a connection were closed or moved to
another one, one of them was the last to go.  It sent exactly one unbind request over the
connection if at that moment no cursor was over the connection and the server still listened, and
otherwise none; and none is sent before or after, whatever else is done. -/
theorem unbound_by_last_departure (w : World κ) (moves : List Move) (k : LinkId)
    (all : AllDepart w moves k) :
    ∃ earlier m later, moves = earlier ++ m :: later ∧
      let f := (fresh w).run earlier
      f.contextsOn k = 1 ∧ f.Departs m k ∧ f.unbindsOver k = 0 ∧
      ∀ more, ((f.step m).run more).contextsOn k = 0 ∧
        ((f.step m).run more).unbindsOver k =
          if f.cursorsOver k = 0 ∧ f.world.network.isOpen k = true then 1 else 0 := by
  obtain ⟨shared, undropped, departed⟩ := all
  obtain ⟨earlier, m, later, split, held, stops⟩ := exists_last
    (p := fun ms => 0 < ((fresh w).run ms).contextsOn k) shared
    (Nat.not_lt.2 (Nat.le_of_eq departed))
  refine ⟨earlier, m, later, split, ?_⟩
  intro f
  have sound : f.Sound := run_sound (fresh_sound w) earlier
  have some : 0 < f.contextsOn k := held
  have after : (f.step m).contextsOn k = 0 := by
    rw [run_append] at stops
    exact Nat.eq_zero_of_not_pos stops
  have departs : f.Departs m k := by
    refine Classical.byContradiction fun stays => ?_
    have kept := step_keeps sound stays fun i c drops found =>
      undropped earlier i ⟨later, by rw [split, drops, List.append_assoc]; rfl⟩ c found
    rw [after] at kept
    exact absurd some (Nat.not_lt.2 kept)
  obtain ⟨-, made, contexts, -, -, unbinds, -⟩ := departure sound departs
  have one : f.contextsOn k = 1 := by omega
  have silent : f.unbindsOver k = 0 := by
    obtain ⟨l, found, -, silent⟩ := sound.inOrder.holder (Nat.add_pos_left some _)
    exact (Network.unbindsOver_of_link? found).trans silent
  have old := Nat.lt_of_lt_of_le (sound.made (Nat.add_pos_left some _)) made
  refine ⟨one, departs, silent, fun more => ?_⟩
  obtain ⟨gone, same⟩ := run_departed (step_sound sound m) old after more
  refine ⟨gone, same.trans (unbinds.trans ?_)⟩
  simp only [holders, one, Nat.add_eq_left]

/-- In a run without drops it only matters that the contexts are gone in the end. -/
theorem AllDepart.of_undropped {w : World κ} {earlier later : List Move} {k : LinkId}
    (undropped : ∀ i, .drop i ∉ earlier ++ later)
    (shared : 0 < ((fresh w).run earlier).contextsOn k)
    (departed : ((fresh w).run (earlier ++ later)).contextsOn k = 0) :
    AllDepart w (earlier ++ later) k := by
  refine ⟨⟨earlier, List.prefix_append _ _, shared⟩, fun before i start => ?_, departed⟩
  exact absurd (start.subset (List.mem_append_right before List.mem_cons_self)) (undropped i)

/-- Two contexts on one connection, and a cursor that goes before the second of them does. -/
theorem unbound_by_last_departure_of_two :
    let moves := [connects, .perform 0 (.newInstance []), searches 1] ++
      [.close 0, .dropCursor 0, .close 1]
    ∃ earlier m later, moves = earlier ++ m :: later ∧
      let f := (fresh oneServer).run earlier
      f.contextsOn 0 = 1 ∧ f.Departs m 0 ∧ f.unbindsOver 0 = 0 ∧
      ∀ more, ((f.step m).run more).contextsOn 0 = 0 ∧
        ((f.step m).run more).unbindsOver 0 =
          if f.cursorsOver 0 = 0 ∧ f.world.network.isOpen 0 = true then 1 else 0 :=
  unbound_by_last_departure oneServer _ 0
    (.of_undropped (fun i => by simp [connects, searches]) (by decide +kernel) (by decide +kernel))

/-- The last departure does not always unbind: here a cursor outlives the only context, and the
connection is never unbound. -/
theorem cursor_prevents_unbind :
    ¬ ∀ (w : World Unit) (moves : List Move) (k : LinkId), AllDepart w moves k →
      ((fresh w).run moves).unbindsOver k = 1 := by
  intro always
  have unbound := always oneServer ([connects, searches 0] ++ [.close 0, .dropCursor 0]) 0
    (.of_undropped (fun i => by simp [connects, searches]) (by decide +kernel) (by decide +kernel))
  exact absurd unbound (by decide +kernel)

end ManagedLdap.Fleet
