/-
# ManagedLdap.Proofs.Ldap.Rebinding -- what a replaced entry goes through

Replacing an entry takes two requests: it is removed, and then the replacement is created.  Nothing
makes them one, and there is no way back from the first.  `Standing` is what stands under the name
as far as the answers of the server tell, whether or not the caller still hears them, and
`rebind_replaces` says what a call comes to in every case.

The replacement is asked for only where the caller heard in time that the name is free, and over
the same connection.  So a removal that is refused leaves the entry alone; but one that was carried
out while the caller lost patience, or after which the connection closed, is the end of it, as is
one after which the creation fails.  In each case the call fails and the entry is lost
(`rebind_loses`).  A creation that is answered too late is the other way round: the call fails, and
the replacement stands.
-/
import ManagedLdap.Proofs.Ldap.EntryReads
import ManagedLdap.Proofs.Ldap.Exchanges

namespace ManagedLdap

set_option autoImplicit false

/-! ## What a server carried out -/

namespace Exchange

/-- Whether the caller heard that the request was carried out. -/
def granted (e : Exchange) : Bool := e.result?.any fun r => r.code == 0

/-- Whether the server answered with success, heard or not. -/
def carriedOut (e : Exchange) : Bool := e.answer?.any fun r => r.code == 0

/-- Whether the answer comes after the caller lost patience. -/
def overdue (e : Exchange) : Bool := e.reply.isLate e.patience

/-- A caller hears that a request was carried out unless it has lost patience. -/
theorem granted_eq (e : Exchange) : e.granted = (e.carriedOut && !e.overdue) := by
  unfold granted carriedOut result? overdue
  cases e.reply.isLate e.patience <;> simp

end Exchange

/-! ## What stands under a name -/

/-- What stands under a name where an entry stood, as far as the answers of the server tell. -/
inductive Standing where
  | original
  | nothing
  | replacement
  deriving DecidableEq, Repr

namespace Standing

/-- What stands under the name `dn` after an exchange: a server that answers a removal or a creation
of that name with success has carried it out, and everything else leaves the name alone. -/
def step (dn : String) (s : Standing) (e : Exchange) : Standing :=
  if e.carriedOut then
    match e.sent.request with
    | .delete target => if target = dn then .nothing else s
    | .add target _ => if target = dn then .replacement else s
    | _ => s
  else s

/-- What stands under a name after some exchanges. -/
def run (dn : String) (es : List Exchange) : Standing := es.foldl (step dn) .original

end Standing

namespace LdapDirContext

variable {κ : Type} {c : LdapDirContext} {name : String} {attrs : Attributes}

/-! ## Removal and creation -/

/-- The request that removes an entry. -/
def removal (c : LdapDirContext) (name : String) : SentRequest :=
  ⟨.delete (c.resolve name), c.requestControls⟩

/-- The request that creates an entry. -/
def creation (c : LdapDirContext) (name : String) (attrs : Attributes) : SentRequest :=
  ⟨.add (c.resolve name) (sentAttributes attrs), c.requestControls⟩

/-- Whether the name is free after a removal was answered like this: the entry was removed, or there
was none. -/
def frees (e : Exchange) : Bool := e.result?.any fun r => r.code == 0 || r.code == 32

/-- A verdict on a removal; an entry that is not there counts as removed. -/
def forgiven : Except DirError Unit → Except DirError Unit
  | .error (.nameNotFound _) => .ok ()
  | verdict => verdict

theorem send_requested (dn : String) {r : Request} (single : r.isSearch = false)
    (c : LdapDirContext) (w : World κ) :
    Requested c ⟨r, c.requestControls⟩ w (fun e => (c.told dn e).mapError .error)
      (send dn r c w) := by
  have demands : ∀ (answer : ServerReply × Except DirError Unit) (c : LdapDirContext) (w : World κ),
      demand answer.2 c w = (answer.2.mapError .error, c, w) := by
    rintro ⟨reply, _ | _⟩ c w <;> rfl
  have sent := (request_requested dn single c w).quietly demands
  have heard : (fun e => (c.received dn e).bind fun answer => answer.2.mapError .error) =
      fun e => (c.told dn e).mapError .error := by
    funext e
    unfold received told
    cases e.result? <;> rfl
  rwa [heard] at sent

/-- Hearing nothing is not hearing that there is no such entry. -/
theorem forgiven_silence (e : Exchange) :
    forgiven (.error (.ofClient e.silence)) = .error (.ofClient e.silence) := by
  unfold Exchange.silence
  split <;> rfl

theorem deleteEntry_requested (dn : String) (c : LdapDirContext) (w : World κ) :
    Requested c ⟨.delete dn, c.requestControls⟩ w
      (fun e => (forgiven (c.told dn e)).mapError .error) (deleteEntry dn c w) := by
  have judges : ∀ (answer : ServerReply × Except DirError Unit) (c : LdapDirContext) (w : World κ),
      (match answer.2 with
        | .error (.nameNotFound _) => return ()
        | verdict => demand verdict : Act κ LdapDirContext Unit) c w =
      ((forgiven answer.2).mapError .error, c, w) := by
    rintro ⟨reply, e | _⟩ c w
    · cases e <;> rfl
    · rfl
  have sent := (request_requested dn (r := .delete dn) rfl c w).quietly judges
  have heard : (fun e => (c.received dn e).bind fun answer =>
        (forgiven answer.2).mapError .error) =
      fun e => (forgiven (c.told dn e)).mapError .error := by
    funext e
    unfold received told
    cases e.result? with
    | none => exact congrArg (Except.mapError Failure.error) (forgiven_silence e).symm
    | some r => rfl
  rwa [heard] at sent

/-- A result is a success by its code. -/
theorem verdict_ok_iff (result : LdapResult) (dn : String) :
    c.verdict result dn = .ok () ↔ result.code = 0 := by
  unfold verdict
  split
  · simp [*]
  · split <;> simp [*]

theorem told_ok_iff (dn : String) (e : Exchange) :
    c.told dn e = .ok () ↔ e.granted = true := by
  unfold told Exchange.granted
  cases e.result? with
  | none => simp
  | some r => simp [verdict_ok_iff]

/-- An entry is reported as not there by its code. -/
theorem verdict_absent_iff (result : LdapResult) (dn : String) :
    (∃ x, c.verdict result dn = .error (.nameNotFound x)) ↔ result.code = 32 := by
  constructor
  · rintro ⟨x, judged⟩
    unfold verdict at judged
    split at judged
    · cases judged
    · split at judged
      · unfold ReferralOrigin.error at judged
        split at judged <;> cases judged
      · unfold DirError.ofResult at judged
        dsimp only at judged
        split at judged
        · assumption
        all_goals cases judged
  · intro absent
    refine ⟨dn, ?_⟩
    simp [verdict, absent, DirError.ofResult]

/-- A removal that freed the name is no error, and any other says what it says. -/
theorem forgiven_told (dn : String) (e : Exchange) :
    forgiven (c.told dn e) = if frees e then .ok () else c.told dn e := by
  unfold told frees
  cases e.result? with
  | none => exact forgiven_silence e
  | some r =>
      simp only [Option.any_some, Bool.or_eq_true, beq_iff_eq]
      by_cases success : r.code = 0
      · rw [if_pos (.inl success), (verdict_ok_iff r dn).2 success]
        rfl
      · by_cases absent : r.code = 32
        · obtain ⟨x, judged⟩ := (verdict_absent_iff (c := c) r dn).2 absent
          rw [if_pos (.inr absent), judged]
          rfl
        · have other : ∀ x, c.verdict r dn ≠ .error (.nameNotFound x) := fun x judged =>
            absent ((verdict_absent_iff r dn).1 ⟨x, judged⟩)
          rw [if_neg (not_or.2 ⟨success, absent⟩), forgiven]
          exact other

/-- What was not granted is an error for the caller. -/
theorem told_error_of_refused (c : LdapDirContext) (dn : String) {e : Exchange}
    (refused : e.granted = false) : ∃ f, c.told dn e = .error f := by
  cases fails : c.told dn e with
  | error f => exact ⟨f, rfl⟩
  | ok u =>
      rw [(told_ok_iff dn e).1 fails] at refused
      cases refused

/-- What did not free the name was not granted either. -/
theorem granted_of_not_frees {e : Exchange} (kept : frees e = false) : e.granted = false := by
  unfold frees at kept
  unfold Exchange.granted
  cases arrived : e.result? with
  | none => rfl
  | some r =>
      rw [arrived] at kept
      exact (Bool.or_eq_false_iff.1 kept).1

/-! ## Replacing an entry -/

/-- Whether a removal was carried out and no creation was after it. -/
def lost : List Exchange → Bool
  | [removed] => removed.carriedOut
  | [removed, created] => removed.carriedOut && !created.carriedOut
  | _ => false

/-- Whether a creation was carried out, which the caller had no patience to hear. -/
def unheard : List Exchange → Bool
  | [_, created] => created.carriedOut && created.overdue
  | _ => false

/-- What a caller hears of these exchanges: what the last answer says, or why the next request was
not sent, where a removal freed the name and none came after it. -/
def hears (c : LdapDirContext) (name : String) : List Exchange → Except Failure Unit
  | [removed] =>
      if frees removed then .error (.error c.unsent)
      else (c.told (c.resolve name) removed).mapError .error
  | [_, created] => (c.told (c.resolve name) created).mapError .error
  | _ => .error (.error c.unsent)

/-- What stands under the name after these exchanges, by what the caller hears.  After a success it
is the replacement.  After an error it is the entry as it was, unless that was removed and no
replacement created, or the replacement was created too late for the caller. -/
def leaves (es : List Exchange) : Except Failure Unit → Standing
  | .ok () => .replacement
  | .error _ =>
      if unheard es then .replacement
      else if lost es then .nothing
      else .original

/-- What replacing an entry comes to, when these were its exchanges. -/
structure Rebound (c : LdapDirContext) (name : String) (attrs : Attributes) (es : List Exchange)
    (outcome : Except Failure Unit) : Prop where
  /-- The entry is removed and then the replacement is created, as far as it gets. -/
  requests : es.map Exchange.sent <+: [c.removal name, c.creation name attrs]
  /-- The replacement is asked for exactly where the caller heard that the name is free, over a
  connection that is still there. -/
  onward : ∀ removed ∈ es.head?,
    (es.length = 2 ↔ frees removed = true ∧ removed.closes = false)
  reports : outcome = c.hears name es
  /-- The call succeeds exactly where the caller heard that the replacement was created. -/
  succeeds : outcome = .ok () ↔ ∃ removed created, es = [removed, created] ∧
    created.granted = true
  stands : Standing.run (c.resolve name) es = leaves es outcome

/-- Whether the server of a connection listens after an exchange. -/
theorem listens_after {patience : Option Nat} {e : Exchange} {l l' : Option Link}
    (said : Converses patience [e] l l') : l'.any Link.isOpen = !e.closes := by
  cases said with
  | exchange listens next rest =>
      cases rest
      rfl

/-- The server of a connection listens when it is asked. -/
theorem listens_before {patience : Option Nat} {e : Exchange} {l l' : Option Link}
    (said : Converses patience [e] l l') : l.any Link.isOpen = true := by
  cases said with
  | exchange listens next rest => exact listens

namespace Rebound

/-- Nothing was sent. -/
theorem silent (c : LdapDirContext) (name : String) (attrs : Attributes) :
    Rebound c name attrs [] (.error (.error c.unsent)) where
  requests := List.nil_prefix
  onward := by
    intro removed first
    cases first
  reports := rfl
  succeeds := by simp
  stands := rfl

/-- The entry was to be removed, and nothing more was asked for: the name is not free, or the
connection is gone. -/
theorem halted {removed : Exchange} (asks : removed.sent = c.removal name)
    (gone : frees removed = true → removed.closes = true) :
    Rebound c name attrs [removed] (c.hears name [removed]) := by
  obtain ⟨f, fails⟩ : ∃ f, c.hears name [removed] = .error f := by
    cases free : frees removed with
    | true => exact ⟨.error c.unsent, by rw [hears, free]; rfl⟩
    | false =>
        obtain ⟨f, told⟩ := told_error_of_refused c (c.resolve name) (granted_of_not_frees free)
        exact ⟨.error f, by rw [hears, free, told]; rfl⟩
  refine ⟨by simp [asks], ?_, rfl, by simp [fails], ?_⟩
  · rintro e ⟨⟩
    refine ⟨nofun, fun ⟨free, stays⟩ => ?_⟩
    rw [gone free] at stays
    cases stays
  · have removes : removed.sent.request = .delete (c.resolve name) := by rw [asks]; rfl
    rw [fails]
    cases done : removed.carriedOut <;>
      simp [Standing.run, Standing.step, done, removes, leaves, unheard, lost]

/-- The name is free, and the replacement was asked for. -/
theorem asked {removed created : Exchange} (asks : removed.sent = c.removal name)
    (asks' : created.sent = c.creation name attrs) (free : frees removed = true)
    (stays : removed.closes = false) :
    Rebound c name attrs [removed, created] (c.hears name [removed, created]) := by
  have heard : c.hears name [removed, created] = .ok () ↔ created.granted = true := by
    rw [← told_ok_iff (c.resolve name) created, hears]
    cases c.told (c.resolve name) created <;> simp [Except.mapError]
  refine ⟨by simp [asks, asks'], by simp [free, stays], rfl, ?_, ?_⟩
  · rw [heard]
    exact ⟨fun granted => ⟨_, _, rfl, granted⟩, fun ⟨_, _, same, granted⟩ => by
      cases same
      exact granted⟩
  · have removes : removed.sent.request = .delete (c.resolve name) := by rw [asks]; rfl
    have creates : created.sent.request = .add (c.resolve name) (sentAttributes attrs) := by
      rw [asks']
      rfl
    have stands : Standing.run (c.resolve name) [removed, created] =
        if created.carriedOut then .replacement
        else if removed.carriedOut then .nothing else .original := by
      simp [Standing.run, Standing.step, removes, creates]
    rw [stands]
    cases granted : created.granted with
    | true =>
        rw [heard.2 granted]
        have both := created.granted_eq.symm.trans granted
        simp only [(Bool.and_eq_true_iff.1 both).1, if_true, leaves]
    | false =>
        obtain ⟨f, fails⟩ : ∃ f, c.hears name [removed, created] = .error f := by
          cases outcome : c.hears name [removed, created] with
          | error f => exact ⟨f, rfl⟩
          | ok u =>
              rw [heard.1 outcome] at granted
              cases granted
        rw [created.granted_eq] at granted
        rw [fails]
        cases done : created.carriedOut with
        | false => simp [leaves, unheard, lost, done]
        | true =>
            have overdue : created.overdue = true := by simpa [done] using granted
            simp [leaves, unheard, done, overdue]

end Rebound

/-- **Replacing an entry.**  Whatever a server answers and when, and whenever a connection closes:
an entry is replaced or left as it was, but for two cases.  It is lost where its removal is carried
out and no creation after it, and replaced all the same where the creation is carried out too late
for the caller. -/
theorem rebind_replaces (c : LdapDirContext) (name : String) (attrs : Attributes) (w : World κ) :
    let x := rebind name attrs c w
    let es := w.network.exchanges c.connection c.patience x.2.2.network
    Converses c.patience es (w.network.seen c.connection) (x.2.2.network.seen c.connection) ∧
      Rebound c name attrs es x.1 := by
  intro x es
  suffices replaced : ∃ said, Converses c.patience said (w.network.seen c.connection)
      (x.2.2.network.seen c.connection) ∧ Rebound c name attrs said x.1 by
    obtain ⟨said, converses, rebound⟩ := replaced
    rw [show es = said from converses.exchanges_eq]
    exact ⟨converses, rebound⟩
  have both : x = (deleteEntry (c.resolve name) >>= fun _ => bind name attrs) c w := by
    simp only [x, rebind, unbind, Act.bind_apply _ _ c w, Act.self_apply]
  have removes := deleteEntry_requested (c.resolve name) c w
  rw [both, Act.bind_apply]
  generalize deleteEntry (c.resolve name) c w = y at removes
  cases removes with
  | unsent deaf => exact ⟨[], .silent _, .silent c name attrs⟩
  | @exchanged removed w' asks said =>
      rw [forgiven_told]
      cases free : frees removed with
      | false =>
          have halted : Rebound c name attrs [removed] (c.hears name [removed]) :=
            .halted asks fun freed => by rw [free] at freed; cases freed
          obtain ⟨f, fails⟩ := told_error_of_refused c (c.resolve name) (granted_of_not_frees free)
          have heard : c.hears name [removed] = .error (.error f) := by
            rw [hears, free, fails]
            rfl
          rw [heard] at halted
          rw [fails]
          exact ⟨[removed], said, halted⟩
      | true =>
          have creates := send_requested (c.resolve name)
            (r := .add (c.resolve name) (sentAttributes attrs)) rfl (c.after [removed]) w'
          have next : bind name attrs (c.after [removed]) w' =
              send (c.resolve name) (.add (c.resolve name) (sentAttributes attrs))
                (c.after [removed]) w' := by
            simp only [bind, Act.bind_apply, Act.self_apply]
            rfl
          have listens : (w'.network.seen c.connection).any Link.isOpen = !removed.closes :=
            listens_after said
          simp only [if_true, Except.mapError, next]
          generalize send _ _ (c.after [removed]) w' = z at creates
          cases creates with
          | unsent deaf =>
              have closes : removed.closes = true := by
                rw [← Bool.not_eq_false', ← listens]
                exact deaf
              have halted : Rebound c name attrs [removed] (c.hears name [removed]) :=
                .halted asks fun _ => closes
              rw [hears, free] at halted
              exact ⟨[removed], said, halted⟩
          | @exchanged created w'' asks' said' =>
              have stays : removed.closes = false := by
                rw [← Bool.not_eq_true', ← listens]
                exact listens_before said'
              exact ⟨[removed, created], said.append said', .asked asks asks' free stays⟩

/-- A server that removes the entry and refuses the replacement: the call fails, and nothing stands
under the name. -/
theorem rebind_loses :
    ¬ ∀ (c : LdapDirContext) (name : String) (attrs : Attributes) (w : World Unit) (f : Failure),
      (rebind name attrs c w).1 = .error f →
        Standing.run (c.resolve name)
          (w.network.exchanges c.connection c.patience (rebind name attrs c w).2.2.network) ≠
            .nothing := by
  intro kept
  let w : World Unit := answering [{}, { result := { code := 50 } }]
  let attrs := Attributes.ofList [("objectClass", ["device"]), ("cn", ["a"])]
  have fails : (rebind "cn=a" attrs listener w).1 =
      .error (.error (.noPermission "cn=a,dc=x: result code 50")) := by decide +kernel
  refine kept listener "cn=a" attrs w _ fails ?_
  decide +kernel

end LdapDirContext

end ManagedLdap
