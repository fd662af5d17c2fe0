/-
# ManagedLdap.Proofs.Ldap.Family -- a fleet and the referrals it received

A `Family` is a fleet together with the referrals that its contexts and cursors received, in the
order they came.  A dealing connects, follows a referral or moves it on to its next address, or
makes any other move of a fleet; so contexts come from nowhere but connecting, other contexts and
referrals.  Whatever referral an operation of a context or a pull of a cursor fails with, it is
followed with what the context had, or had when the search of the cursor started
(`perform_received`, `pull_received`), and connecting fails with none (`open_unreferred`).
-/
import ManagedLdap.Proofs.Ldap.Conversation
import ManagedLdap.Proofs.Ldap.Fleet
import ManagedLdap.Proofs.Ldap.Listing
import ManagedLdap.Referral.Connect

namespace ManagedLdap

set_option autoImplicit false

variable {κ σ : Type} {α β : Type}

/-! ## Failures that carry no referral -/

/-- The referral that a failure carries, if a server sent it. -/
def Failure.received? : Failure → Option LdapReferral
  | .error (.referral (.ldap r)) => some r
  | _ => none

theorem Failure.isReferral_of_received {f : Failure} {r : LdapReferral}
    (received : f.received? = some r) : f.isReferral = true := by
  unfold received? at received
  split at received
  · rfl
  · cases received

/-- A call that fails with no referral, and returns only values that meet `Q`. -/
def Act.Unreferred (Q : α → Prop) (x : Act κ σ α) : Prop :=
  ∀ s w, match (x s w).1 with
    | .error f => f.isReferral = false
    | .ok a => Q a

namespace Act.Unreferred

variable {Q : α → Prop} {Q' : β → Prop}

theorem ret {a : α} (met : Q a) : Unreferred Q (pure a : Act κ σ α) := fun _ _ => met

theorem panic : Unreferred Q (Act.failWith .panic : Act κ σ α) := fun _ _ => rfl

theorem fail {e : DirError} (plain : e.isReferral = false) :
    Unreferred Q (Act.fail e : Act κ σ α) := fun _ _ => plain

theorem bind {x : Act κ σ α} {f : α → Act κ σ β} (first : Unreferred Q x)
    (second : ∀ a, Q a → Unreferred Q' (f a)) : Unreferred Q' (x >>= f) := by
  intro s w
  have met := first s w
  rw [bind_apply]
  generalize x s w = y at met
  obtain ⟨_ | a, s', w'⟩ := y
  · exact met
  · exact second a met s' w'

theorem map {x : Act κ σ α} (f : α → β) (plain : Unreferred (fun a => Q' (f a)) x) :
    Unreferred Q' (f <$> x) := by
  rw [← bind_pure_comp]
  exact plain.bind fun _ met => ret met

/-- Going on with the object. -/
theorem withSelf {f : σ → Act κ σ β} (next : ∀ s, Unreferred Q' (f s)) :
    Unreferred Q' (Act.self >>= f) := fun s w => next s s w

/-- Going on with the network. -/
theorem withNetwork {f : Network → Act κ σ β} (next : ∀ n, Unreferred Q' (f n)) :
    Unreferred Q' (Act.network >>= f) := fun s w => next w.network s w

/-- Going on after a change of the world. -/
theorem after {g : World κ → World κ} {f : Unit → Act κ σ β} (next : Unreferred Q' (f ())) :
    Unreferred Q' (Act.updateWorld g >>= f) :=
  fun s w => next s (g w)

/-- Going on after a change of the network. -/
theorem changing {g : Network → Network} {f : Unit → Act κ σ β} (next : Unreferred Q' (f ())) :
    Unreferred Q' (Act.updateNetwork g >>= f) :=
  after next

theorem received {x : Act κ σ α} (plain : Unreferred Q x) {s : σ} {w : World κ} {f : Failure}
    (failed : (x s w).1 = .error f) : f.received? = none := by
  have met := plain s w
  rw [failed] at met
  replace met : f.isReferral = false := met
  cases found : f.received? with
  | none => rfl
  | some r =>
      rw [Failure.isReferral_of_received found] at met
      cases met

end Act.Unreferred

open Act (Unreferred)

namespace Client

theorem exchange_unreferred (link : LinkId) (patience : Option Nat) (controls : List Control)
    (r : Request) : Unreferred (fun _ => True) (exchange link patience controls r : Act κ σ _) := by
  refine .withNetwork fun n => ?_
  split
  · exact .after (.ret trivial)
  · exact .ret trivial

theorem startSearch_unreferred (link : LinkId) (patience : Option Nat) (controls : List Control)
    (size : Option Int) (spec : SearchSpec) :
    Unreferred (fun _ => True) (startSearch link patience controls size spec : Act κ σ _) := by
  unfold startSearch
  split
  · exact .ret trivial
  · split
    · exact .ret trivial
    · refine .withNetwork fun n => .withNetwork fun n => ?_
      split
      · exact .after (.ret trivial)
      · exact .ret trivial

theorem orFail_unreferred {x : Act κ σ (Except ClientError α)}
    (plain : Unreferred (fun _ => True) x) : Unreferred (fun _ => True) (orFail x) := by
  refine plain.bind fun r _ => ?_
  cases r with
  | ok a => exact .ret trivial
  | error e => exact .fail (DirError.isReferral_ofClient e)

theorem negotiate_unreferred (link : LinkId) (patience : Option Nat) :
    Unreferred (fun _ => True) (negotiate link patience : Act κ σ _) := by
  refine (exchange_unreferred _ _ _ _).bind fun r _ => ?_
  cases r with
  | error e => exact .changing (.ret trivial)
  | ok reply =>
      dsimp only
      split
      · exact .ret trivial
      · exact .changing (.ret trivial)

theorem dial_unreferred (url : String) (settings : ConnSettings) :
    Unreferred (fun _ => True) (dial url settings : Act κ σ _) := by
  unfold dial
  split
  · exact .ret trivial
  · split
    · exact .withNetwork fun n => .ret trivial
    · split
      · exact .ret trivial
      · exact .panic
      · refine .withNetwork fun n => ?_
        dsimp only
        split
        · exact .ret trivial
        · refine .changing ?_
          split
          · exact negotiate_unreferred _ _
          · exact .ret trivial

end Client

namespace Connection

/-- What a refused bind reports is no referral either. -/
theorem bind_unreferred (link : LinkId) (credentials : Credentials) (controls : List Control) :
    Unreferred (fun r => ∀ e, r = .error e → e.isReferral = false)
      (Connection.bind link credentials controls : Act κ σ _) := by
  have reports : ∀ {e : DirError}, e.isReferral = false →
      ∀ e', (Except.error e : Except DirError Unit) = .error e' → e'.isReferral = false := by
    intro e plain e' same
    rwa [← Except.error.inj same]
  refine (Client.exchange_unreferred _ _ _ _).bind fun r _ => ?_
  cases r with
  | error e => exact .ret (reports (DirError.isReferral_ofClient e))
  | ok reply =>
      dsimp only
      split
      · exact .ret (reports rfl)
      · split
        · exact .ret fun _ failed => by cases failed
        · exact .ret (reports rfl)

theorem configure_unreferred (factory : Option SocketFactory) (settings : ConnSettings) :
    Unreferred (fun _ => True) (configure factory settings : Act κ σ _) := by
  intro s w
  obtain ⟨w', configured, -⟩ := configure_network factory settings s w
  rw [configured]
  trivial

theorem open_unreferred (url : String) (config : LdapConfig) (credentials : Credentials)
    (controls : List Control) :
    Unreferred (fun _ => True) (Connection.open url config credentials controls : Act κ σ _) := by
  intro s w
  refine (configure_unreferred w.slot _).bind (fun _ _ => .changing ?_) s w
  refine (Client.dial_unreferred url _).bind fun r _ => ?_
  cases r with
  | error e => exact .fail rfl
  | ok link =>
      dsimp only
      split
      · exact .ret trivial
      · refine (bind_unreferred link credentials controls).bind fun r plain => ?_
        cases r with
        | ok _ => exact .ret trivial
        | error e => exact .changing (.fail (plain e rfl))

end Connection

/-! ## Referrals that are received -/

theorem ReferralOrigin.error_received {o : ReferralOrigin} {urls : List String} {target : String}
    {r : LdapReferral} (received : (Failure.error (o.error urls target)).received? = some r) :
    r.origin = o := by
  rw [o.error_eq] at received
  split at received
  · obtain rfl := Option.some.inj received
    rfl
  · cases received

namespace SearchCursor

variable {c : SearchCursor}

/-- A referral that is owed is followed with what the cursor has kept. -/
theorem owed_received {n : Network} {f : Failure} {r : LdapReferral}
    (owes : (c.owed n).error = some f) (received : f.received? = some r) :
    r.origin = c.origin := by
  have plain : ∀ {e : DirError}, f = .error e → e.isReferral = true := by
    rintro e rfl
    exact Failure.isReferral_of_received received
  unfold owed at owes
  split at owes
  · cases owes
  · next s _ =>
    dsimp only [owedFor] at owes
    cases ending : (s.unread n).2 with
    | failed e =>
        rw [ending] at owes
        have carries := plain (Option.some.inj owes).symm
        rw [DirError.isReferral_ofClient] at carries
        cases carries
    | unreadable =>
        rw [ending] at owes
        obtain rfl := Option.some.inj owes
        cases received
    | result result =>
        rw [ending, terminal, keepReferences_eq] at owes
        obtain ⟨e, judged, rfl⟩ := Option.map_eq_some_iff.1 owes
        unfold verdict at judged
        split at judged
        · split at judged
          · cases judged
          · obtain rfl := Option.some.inj judged
            exact ReferralOrigin.error_received received
        · split at judged
          · obtain rfl := Option.some.inj judged
            exact ReferralOrigin.error_received received
          · obtain rfl := Option.some.inj judged
            have carries := plain rfl
            rw [DirError.isReferral_ofResult] at carries
            cases carries

/-- A referral that a pull fails with. -/
theorem pull_received {k : LinkId} {controls : List Control} (lies : Over k controls c)
    (p : Pull) {w : World κ} {f : Failure} (failed : (p.run c w).1 = .error f)
    {r : LdapReferral} (received : f.received? = some r) : r.origin = c.origin := by
  rw [(pull_owed p lies).1] at failed
  exact owed_received (Owed.error_of_answer failed) received

theorem hasMore_received {k : LinkId} {controls : List Control} (lies : Over k controls c)
    {w : World κ} {f : Failure} (failed : (hasMore c w).1 = .error f) {r : LdapReferral}
    (received : f.received? = some r) : r.origin = c.origin := by
  refine pull_received lies .hasMore (w := w) ?_ received
  rw [Pull.run, Act.map_apply, failed]
  rfl

theorem next_received {k : LinkId} {controls : List Control} (lies : Over k controls c)
    {w : World κ} {f : Failure} (failed : (next c w).1 = .error f) {r : LdapReferral}
    (received : f.received? = some r) : r.origin = c.origin := by
  refine pull_received lies .next (w := w) ?_ received
  rw [Pull.run, Act.map_apply, failed]
  rfl

end SearchCursor

namespace LdapDirContext

theorem search_unreferred (name filter : String) (controls : SearchControls) :
    Unreferred (fun _ => True) (search name filter controls : Act κ _ _) := by
  refine .withSelf fun c => ?_
  have link : Unreferred (fun _ => True) (c.linkOf : Act κ LdapDirContext _) := by
    unfold linkOf
    split
    · exact .ret trivial
    · exact .fail rfl
  exact link.bind fun _ _ => (Client.orFail_unreferred
    (Client.startSearch_unreferred _ _ _ _ _)).bind fun _ _ => .changing (.ret trivial)

theorem reconnect_unreferred (controls : List Control) :
    Unreferred (fun _ => True) (reconnect controls : Act κ _ _) := by
  refine .withSelf fun c => (Connection.open_unreferred _ _ _ _).bind fun k _ => ?_
  intro s w
  simp only [Act.bind_apply, Act.update_apply]
  cases c.connection with
  | none => trivial
  | some previous =>
      obtain ⟨w', released, -⟩ := Connection.release_network previous c.url
        { s with connectControls := controls, connection := some k } w
      simp only [released]

theorem list_received {c : LdapDirContext} {name : String} {w : World κ} {f : Failure}
    (failed : (list name c w).1 = .error f) {r : LdapReferral} (received : f.received? = some r) :
    r.origin = c.origin := by
  rcases started : search name Filter.matchAll listing c w with ⟨failure | cursor, c', w'⟩
  · have none := (search_unreferred name Filter.matchAll listing).received
      (congrArg Prod.fst started)
    have same : (list name c w).1 = .error failure := by
      simp only [list, withReturnAttributes_eq_listing, Act.bind_apply, started]
    obtain rfl := Except.error.inj (failed.symm.trans same)
    rw [none] at received
    cases received
  · obtain ⟨s, made⟩ := search_starts started
    rw [list_outcome started] at failed
    cases owes : (cursor.owed w'.network).error with
    | none =>
        rw [owes] at failed
        cases failed
    | some f' =>
        rw [owes] at failed
        obtain rfl := Except.error.inj failed
        rw [SearchCursor.owed_received owes received, made]
        rfl

/-- **Referrals received.**  A referral that an operation fails with is followed with what the
context has. -/
theorem perform_received {c : LdapDirContext} {op : Op} {w : World κ} {f : Failure}
    (failed : (perform op c w).1 = .error f) {r : LdapReferral} (received : f.received? = some r) :
    r.origin = c.origin := by
  have unreferred : Unreferred (fun _ => True) (perform op : Act κ _ _) → r.origin = c.origin := by
    intro plain
    rw [plain.received failed] at received
    cases received
  cases converses : isConversation op with
  | true =>
      have conversing : Conversing c _ (perform op : Act κ _ _) := perform_converses converses
      obtain ⟨es, said⟩ := conversing c w rfl
      obtain ⟨referral, rfl⟩ : ∃ referral, f = .error (.referral referral) := by
        cases f with
        | panic => cases received
        | error e =>
            cases e with
            | referral referral => exact ⟨referral, rfl⟩
            | _ => cases received
      obtain ⟨r', rfl, same⟩ := said.origin referral failed
      obtain rfl := Option.some.inj received
      exact same
  | false =>
      cases op with
      | list name =>
          simp only [perform, Act.map_apply] at failed
          cases outcome : (list name c w).1 with
          | ok items =>
              rw [outcome] at failed
              cases failed
          | error f' =>
              rw [outcome] at failed
              obtain rfl := Except.error.inj failed
              exact list_received outcome received
      | search name filter controls => exact unreferred (.map _ (search_unreferred _ _ _))
      | searchByAttributes name matching ids =>
          exact unreferred (.map _ (search_unreferred _ _ _))
      | searchWithArgs name expr args controls =>
          refine unreferred (.map _ ?_)
          unfold searchWithArgs
          split
          · exact search_unreferred _ _ _
          · exact .fail rfl
      | reconnect controls =>
          exact unreferred ((reconnect_unreferred controls).bind fun _ _ => .ret trivial)
      | addToEnvironment property value => cases failed
      | removeFromEnvironment property => cases failed
      | setRequestControls controls => cases failed
      | _ => cases converses

end LdapDirContext

/-! ## Contexts that are opened -/

/-- A call that opens a context.  A bind of the connection has these controls, and so has the
context for its referrals; it has none for its requests.  The call fails with no referral. -/
def LdapDirContext.OpensWith (controls : List Control) (x : Act κ Unit LdapDirContext) : Prop :=
  ∀ w, ∃ credentials opened,
    w.network.Grown (SentRequest.Begins credentials controls) (x () w).2.2.network opened ∧
      match (x () w).1 with
      | .ok c => c.requestControls = [] ∧ c.connectControls = controls
      | .error f => f.received? = none

namespace LdapDirContext

theorem openAt_opensWith (url base : String) (config : LdapConfig) (credentials : Credentials)
    (env : Environment) (controls : List Control) :
    OpensWith controls (openAt url base config credentials env controls : Act κ _ _) := by
  intro w
  obtain ⟨-, grown⟩ := Connection.open_grows url config credentials controls () w
  have plain : ∀ f, (Connection.open url config credentials controls () w).1 = .error f →
      f.received? = none := fun _ =>
    (Connection.open_unreferred url config credentials controls).received
  simp only [openAt, Act.bind_apply]
  generalize Connection.open url config credentials controls () w = y at grown plain
  obtain ⟨failure | k, s, w'⟩ := y
  · exact ⟨credentials, _, grown, plain failure rfl⟩
  · exact ⟨credentials, _, grown, rfl, rfl⟩

end LdapDirContext

namespace LdapReferral

theorem destination_fault {r : LdapReferral} {e : DirError} (nowhere : r.destination = .error e) :
    (Failure.error e).received? = none := by
  unfold destination at nowhere
  split at nowhere
  · obtain rfl := Except.error.inj nowhere
    rfl
  · split at nowhere
    · obtain rfl := Except.error.inj nowhere
      rfl
    · cases nowhere

/-- A referral is followed with what its origin has. -/
theorem connect_opensWith (r : LdapReferral) :
    LdapDirContext.OpensWith r.origin.connectControls (r.connect : Act κ _ _) := by
  intro w
  cases leads : r.destination with
  | error e =>
      simp only [connect, leads, LdapDirContext.demand, Act.bind_apply, Act.fail_apply]
      exact ⟨r.origin.credentials, none, .none rfl, destination_fault leads⟩
  | ok target =>
      obtain ⟨credentials, opened, grown, came⟩ := LdapDirContext.openAt_opensWith target.serverUrl
        target.dn r.origin.config r.origin.credentials r.origin.environment
        r.origin.connectControls w
      simp only [connect, leads, LdapDirContext.demand, Act.bind_apply, Act.pure_apply, Act.outcome]
      generalize LdapDirContext.openAt target.serverUrl target.dn r.origin.config
        r.origin.credentials r.origin.environment r.origin.connectControls () w = y at grown came
      obtain ⟨(e | _) | c, s, w'⟩ := y
      · exact ⟨credentials, opened, grown, came⟩
      · exact ⟨credentials, opened, grown, came⟩
      · exact ⟨credentials, opened, grown, came⟩

/-- The referral moved on to its next address, if there is one. -/
def skipped (r : LdapReferral) : LdapReferral :=
  match (Referral.ldap r).skip with
  | (_, .ldap r) => r
  | (_, .scripted _) => r

/-- Moving a referral on does not change what it is followed with. -/
theorem skipped_origin (r : LdapReferral) : r.skipped.origin = r.origin := by
  simp only [skipped, Referral.skip]
  cases Referral.nextIndex? r.index r.urls.length <;> rfl

end LdapReferral

/-! ## Families and their dealings -/

/-- A fleet, and the referrals it received in the order they came. -/
structure Family (κ : Type) where
  fleet : Fleet κ
  referrals : List LdapReferral

/-- Whether a move opens a context from nothing that the fleet has. -/
def Move.opensContext : Move → Bool
  | .openAt .. => true
  | _ => false

/-- What can be done with a family. -/
inductive Dealing where
  | connect (config : LdapConfig) (credentials : Credentials) (env : Environment)
  /-- Follow a referral to its next address. -/
  | follow (n : Nat)
  /-- Move a referral on. -/
  | skip (n : Nat)
  | move (m : Move) (others : m.opensContext = false)

namespace Fleet

/-- A call that opens a context, which joins the fleet. -/
def opened (f : Fleet κ) (x : Act κ Unit LdapDirContext) : Fleet κ :=
  join { f with world := (x () f.world).2.2 } ((x () f.world).1.map .context)

/-- What a call of the cursor of a place comes to for its caller, apart from what it returns. -/
def pulled (f : Fleet κ) (j : Nat) (x : Act κ SearchCursor α) :
    Option (Except Failure (Reply LdapDirContext SearchCursor)) :=
  match f.cursors[j]? with
  | some (some cursor) => some ((x cursor f.world).1.map fun _ => .done)
  | _ => none

/-- What a move comes to for its caller, if it can fail or hand out anything. -/
def told (f : Fleet κ) : Move → Option (Except Failure (Reply LdapDirContext SearchCursor))
  | .perform i op => (f.onContext i (LdapDirContext.perform op)).1
  | .hasMore j => f.pulled j SearchCursor.hasMore
  | .next j => f.pulled j SearchCursor.next
  | _ => none

end Fleet

namespace Family

/-- A network without connections, and nobody there to use it. -/
def fresh (w : World κ) : Family κ := ⟨.fresh w, []⟩

/-- What a dealing comes to for its caller. -/
def told (a : Family κ) : Dealing → Option (Except Failure (Reply LdapDirContext SearchCursor))
  | .connect config credentials env =>
      some ((LdapDirContext.connect config credentials env () a.fleet.world).1.map .context)
  | .follow n =>
      match a.referrals[n]? with
      | some r => some ((r.connect () a.fleet.world).1.map .context)
      | none => none
  | .skip _ => none
  | .move m _ => a.fleet.told m

/-- The fleet after a dealing. -/
def after (a : Family κ) : Dealing → Fleet κ
  | .connect config credentials env =>
      a.fleet.opened (LdapDirContext.connect config credentials env)
  | .follow n =>
      match a.referrals[n]? with
      | some r => a.fleet.opened r.connect
      | none => a.fleet
  | .skip _ => a.fleet
  | .move m _ => a.fleet.step m

/-- The referral that an outcome brings. -/
def brought : Option (Except Failure (Reply LdapDirContext SearchCursor)) → Option LdapReferral
  | some (.error f) => f.received?
  | _ => none

/-- Do a dealing.  A referral that its caller is told joins the family. -/
def step (a : Family κ) (d : Dealing) : Family κ where
  fleet := a.after d
  referrals :=
    (match d with
      | .skip n => a.referrals.modify n LdapReferral.skipped
      | _ => a.referrals) ++ (brought (a.told d)).toList

end Family

end ManagedLdap
