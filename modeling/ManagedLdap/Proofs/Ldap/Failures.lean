/-
# ManagedLdap.Proofs.Ldap.Failures -- what failures and reconnects leave alone

An operation that fails leaves its context as it was, save for the controls of the last response
(`failed_like`).  That includes reconnecting, which opens another connection before it lets go of
the present one: if it fails, the present one was not touched at all.

A reconnect that succeeds moves its own context to the new connection and nobody else.  The
contexts and cursors that stay behind cannot tell: `failures_leave_alone` compares what they are
told after the reconnect with what they would have been told without it.
-/
import ManagedLdap.Proofs.Ldap.AfterClose
import ManagedLdap.Proofs.Ldap.Confined
import ManagedLdap.Proofs.Ldap.LazySearch
import ManagedLdap.Proofs.Ldap.Unbind

namespace ManagedLdap

set_option autoImplicit false

variable {κ : Type}

/-! ## Failures -/

namespace LdapDirContext

/-- An operation that fails changes nothing of its context but the controls of the last
response. -/
theorem failed_like {c : LdapDirContext} {op : Op} {w : World κ} {failure : Failure}
    (failed : (perform op c w).1 = .error failure) : Like c (perform op c w).2.1 := by
  cases opens : op.opensConnection with
  | false =>
      cases asks : isLocal op with
      | true =>
          obtain ⟨reply, c', performed, -⟩ := perform_local asks c w
          rw [performed] at failed
          cases failed
      | false =>
          have offers : Offers c _ held (Handed c op) (perform op : Act κ _ _) :=
            perform_offers opens asks
          exact (offers c w rfl).1
  | true =>
      cases op with
      | reconnect controls =>
          rw [perform_reconnect] at failed ⊢
          rcases c.reconnect_network controls w with ⟨_, w', refused, -⟩ | ⟨_, _, w', moved, -, -⟩
          · rw [refused]
            rfl
          · rw [moved] at failed
            cases failed
      | _ => cases opens

/-! ## Calls that go on -/

/-- Whether a call keeps its context on its connection. -/
def Call.stays : Call → Bool
  | .perform op => !op.opensConnection
  | .ask _ => true
  | .close => false

/-- What can be told of a call by its caller, and over a line. -/
def CallReport.told (line : Option LinkId) (r : CallReport κ) :
    Except Failure (Reply LdapDirContext SearchCursor ⊕ Answer) × LdapDirContext × Option Link :=
  (r.outcome, r.after.1, r.after.2.network.seen line)

theorem call_confined {call : Call} (stays : call.stays = true) (c : LdapDirContext)
    {w w' : World κ} (same : w.network.seen c.connection = w'.network.seen c.connection) :
    (call.report (c, w)).told c.connection = (call.report (c, w')).told c.connection ∧
      (call.report (c, w)).after.1.connection = c.connection := by
  cases call with
  | perform op =>
      have opens : op.opensConnection = false := by simpa [Call.stays] using stays
      have sees : Sees c (perform op : Act κ _ _) := perform_sees opens
      obtain ⟨value, object, looks⟩ := sees c w w' rfl same
      obtain ⟨still, -⟩ := perform_shares opens c w
      refine ⟨?_, ?_⟩
      · simp only [CallReport.told, Call.report, Call.run, Act.map_apply, value, object, looks]
      · simp only [Call.report, Call.run, Act.map_apply, still]
  | ask q => exact ⟨congrArg (fun seen => (_, c, seen)) same, rfl⟩
  | close => cases stays

/-- **Out of sight.**  Worlds that look the same on the connection of a context are the same to
it, whatever it is asked for as long as it stays on the connection. -/
theorem history_confined {calls : List Call} (stay : ∀ call ∈ calls, call.stays = true)
    (c : LdapDirContext) {w w' : World κ}
    (same : w.network.seen c.connection = w'.network.seen c.connection) :
    (history calls (c, w)).map (CallReport.told c.connection) =
      (history calls (c, w')).map (CallReport.told c.connection) := by
  induction calls generalizing c w w' with
  | nil => rfl
  | cons call calls ih =>
      obtain ⟨told, still⟩ := call_confined (stay call List.mem_cons_self) c same
      have object := congrArg (fun t => t.2.1) told
      have looks := congrArg (fun t => t.2.2) told
      have rest := ih (fun later among => stay later (List.mem_cons_of_mem _ among))
        (call.report (c, w)).after.1 (still.symm ▸ looks)
      rw [still] at rest
      simp only [history, List.map_cons]
      refine List.cons_eq_cons.2 ⟨told, rest.trans ?_⟩
      have after : (call.report (c, w')).after =
          ((call.report (c, w)).after.1, (call.report (c, w')).after.2) := Prod.ext object.symm rfl
      rw [after]

end LdapDirContext

namespace SearchCursor

/-- What can be told of a pull by its caller, and over a line. -/
def Report.told (line : Option LinkId) (r : Report κ) :
    Except Failure Pulled × SearchCursor × Option Link :=
  (r.outcome, r.after.1, r.after.2.network.seen line)

/-- Worlds that look the same on the connection of a cursor are the same to it. -/
theorem reports_confined {k : LinkId} {controls : List Control} {cursor : SearchCursor}
    (lies : cursor.Over k controls) (pulls : List Pull) {w w' : World κ}
    (same : w.network.seen (some k) = w'.network.seen (some k)) :
    (reports pulls (cursor, w)).map (Report.told (some k)) =
      (reports pulls (cursor, w')).map (Report.told (some k)) := by
  induction pulls generalizing cursor w w' with
  | nil => rfl
  | cons p pulls ih =>
      have sees : Sees k controls (p.run : Act κ _ _) := by
        cases p with
        | hasMore => exact hasMore_sees.map _
        | next => exact next_sees.map _
      obtain ⟨value, object, looks⟩ := sees cursor w w' lies same
      have told : (p.report (cursor, w)).told (some k) = (p.report (cursor, w')).told (some k) := by
        simp only [Report.told, Pull.report, value, object, looks]
      have rest := ih (pull_over p w lies) looks
      simp only [reports, List.map_cons]
      refine List.cons_eq_cons.2 ⟨told, rest.trans ?_⟩
      have after : (p.report (cursor, w')).after =
          ((p.report (cursor, w)).after.1, (p.report (cursor, w')).after.2) :=
        Prod.ext object.symm rfl
      rw [after]
      rfl

end SearchCursor

/-! ## Who stays behind -/

namespace Fleet

/-- A connection that is held by others looks the same to them when a context leaves it. -/
theorem leave_seen {f : Fleet κ} (sound : f.Sound) {m : Move} {i : Nat} (leaves : Leaves m i)
    {k : LinkId} (besides : f.HeldBesides i k) :
    (f.step m).world.network.seen (some k) = f.world.network.seen (some k) := by
  obtain ⟨shares, link⟩ := leave_undisturbed sound leaves besides
  change ((f.step m).world.network.link? k).map Link.unshared = _
  rw [link, Option.map_map]
  rfl

/-- A context that reconnects moves to the newest connection, and nobody else moves. -/
theorem step_reconnects {f : Fleet κ} {i : Nat} {c : LdapDirContext}
    (found : f.contexts[i]? = some (some c)) {controls : List Control}
    (moved : (LdapDirContext.reconnect controls c f.world).1.isOk = true) :
    (f.step (.perform i (.reconnect controls))).contexts = f.contexts.set i (some { c with
        connectControls := controls, connection := some f.world.network.links.length }) ∧
      (f.step (.perform i (.reconnect controls))).cursors = f.cursors := by
  simp only [step, onContext_found found, LdapDirContext.perform_reconnect]
  rcases c.reconnect_network controls f.world with ⟨_, w', refused, -⟩ | ⟨k, n, w', opened, grown, -⟩
  · rw [refused] at moved
    cases moved
  · obtain ⟨rfl, -⟩ := grown.newest
    rw [opened]
    exact ⟨rfl, rfl⟩

open LdapDirContext in
/-- **Failures leave a context as it was, and a reconnect leaves everybody else where they are.**

Whatever an operation fails with, nothing of its context is another than before but the controls
of the last response.  A reconnect that fails leaves even those, and every connection that was
there; whatever the context is asked for next, it is told what it would have been told without
the attempt, and sends the same over its connection.

In any run, a reconnect that succeeds gives its context a new connection and the connect controls
it was called with.  Every other context and every cursor stays on the connection it is on, is
told what it would have been told there without the reconnect, and sends the same. -/
theorem failures_leave_alone :
    (∀ (c : LdapDirContext) (op : Op) (w : World κ) (failure : Failure),
      (perform op c w).1 = .error failure → Like c (perform op c w).2.1) ∧
    (∀ (c : LdapDirContext) (controls : List Control) (w : World κ) (failure : Failure),
      let x := reconnect controls c w
      x.1 = .error failure →
        x.2.1 = c ∧ (∀ k < w.network.links.length, x.2.2.network.link? k = w.network.link? k) ∧
        ((∀ k ∈ c.connection, k < w.network.links.length) →
          ∀ calls : List Call, (∀ call ∈ calls, call.stays = true) →
            (history calls x.2).map (CallReport.told c.connection) =
              (history calls (c, w)).map (CallReport.told c.connection))) ∧
    ∀ (w : World κ) (moves : List Move) (i : Nat) (c : LdapDirContext) (controls : List Control),
      let f := (fresh w).run moves
      let g := f.step (.perform i (.reconnect controls))
      f.contexts[i]? = some (some c) → (reconnect controls c f.world).1.isOk = true →
        g.contexts = f.contexts.set i (some { c with
          connectControls := controls, connection := some f.world.network.links.length }) ∧
        g.cursors = f.cursors ∧
        (∀ (j : Nat) (c' : LdapDirContext), j ≠ i → f.contexts[j]? = some (some c') →
          ∀ calls : List Call, (∀ call ∈ calls, call.stays = true) →
            (history calls (c', g.world)).map (CallReport.told c'.connection) =
              (history calls (c', f.world)).map (CallReport.told c'.connection)) ∧
        ∀ (j : Nat) (cursor : SearchCursor), f.cursors[j]? = some (some cursor) →
          ∀ pulls : List SearchCursor.Pull,
            (SearchCursor.reports pulls (cursor, g.world)).map
                (SearchCursor.Report.told (some cursor.link)) =
              (SearchCursor.reports pulls (cursor, f.world)).map
                (SearchCursor.Report.told (some cursor.link)) := by
  refine ⟨fun c op w failure => failed_like, fun c controls w failure => ?_,
    fun w moves i c controls => ?_⟩
  · intro x failed
    rcases c.reconnect_network controls w with ⟨_, w', refused, grown⟩ | ⟨_, _, w', opened, -, -⟩
    · have after : x = (_, c, w') := refused
      have links : ∀ k < w.network.links.length, w'.network.link? k = w.network.link? k :=
        fun k old => grown.link? old
      rw [after]
      refine ⟨rfl, links, fun made calls stay => history_confined stay c ?_⟩
      cases on : c.connection with
      | none => rfl
      | some k => exact congrArg (Option.map Link.unshared) (links k (made k on))
    · have after : x = (.ok (), _, w') := opened
      rw [after] at failed
      cases failed
  · intro f g found moved
    have sound : f.Sound := run_sound (fresh_sound w) moves
    have leaves : Leaves (.perform i (.reconnect controls)) i := .inr ⟨controls, rfl⟩
    obtain ⟨contexts, cursors⟩ := step_reconnects found moved
    refine ⟨contexts, cursors, fun j c' other place calls stay => ?_,
      fun j cursor place pulls => ?_⟩
    · refine history_confined stay c' ?_
      cases on : c'.connection with
      | none => rfl
      | some k => exact leave_seen sound leaves (.inl ⟨j, c', other, place, on⟩)
    · obtain ⟨_, lies⟩ := sound.cursors cursor (List.mem_of_getElem? place)
      exact SearchCursor.reports_confined lies pulls
        (leave_seen sound leaves (.inr ⟨j, cursor, place, rfl⟩))

end Fleet

end ManagedLdap
