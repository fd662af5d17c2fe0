/-
# ManagedLdap.Proofs.Secrecy.Ldap -- contexts over a connection pass passwords on

Nothing that speaks to a server looks at a password: a bind sends the one it is given, a
context hands its own to the referrals it receives, and that is all.  So everything here leads
the same way under a veil, whatever the veil puts where.
-/
import ManagedLdap.Proofs.Secrecy.Cursor

namespace ManagedLdap

set_option autoImplicit false

open Act

variable {α κ σ : Type} [Veilable α] [Veilable κ] [Veilable σ] {v : Veil} {I : σ → Prop}

/-! ## Errors -/

/-- No result of a server holds a password. -/
@[simp] theorem DirError.cover_ofResult (v : Veil) (result : LdapResult) (name : String) :
    v.cover (DirError.ofResult result name) = DirError.ofResult result name := by
  unfold DirError.ofResult
  dsimp only
  split <;> rfl

@[simp] theorem DirError.cover_ofClient (v : Veil) (e : ClientError) :
    v.cover (DirError.ofClient e) = DirError.ofClient e := by
  cases e with
  | result r => exact cover_ofResult v r r.matched
  | _ => rfl

/-- A referral carries the veil along. -/
theorem ReferralOrigin.cover_error (v : Veil) (o : ReferralOrigin) (urls : List String)
    (target : String) : (v.cover o).error urls target = v.cover (o.error urls target) := by
  unfold ReferralOrigin.error
  change (if o.mode = .throw ∧ urls ≠ [] then _ else _) = _
  split <;> rfl

/-! ## Requests -/

namespace Client

theorem exchange_oblivious (link : LinkId) (patience : Option Nat) (controls : List Control)
    (r : Request) :
    Oblivious v I (exchange link patience controls r : Act κ σ _)
      (exchange link patience controls (v.cover r)) := by
  unfold exchange
  refine Oblivious.withNetwork fun n => ?_
  simp only [Network.cover_isOpen, Network.cover_nextReply]
  split
  · refine Oblivious.bindSame (Oblivious.updateWorld fun w => ?_) fun _ => Oblivious.retSame _
    exact World.cover_exchange v w link ⟨r, controls⟩ ServerReply.closes
  · exact Oblivious.retSame _

theorem post_oblivious (link : LinkId) (r : Request) :
    Oblivious v I (post link r : Act κ σ _) (post link (v.cover r)) := by
  unfold post
  refine Oblivious.withNetwork fun n => ?_
  rw [Network.cover_isOpen]
  split
  · refine Oblivious.bindSame (Oblivious.updateNetwork fun n => ?_) fun _ => Oblivious.retSame _
    exact Network.cover_send v n link ⟨r, []⟩
  · exact Oblivious.retSame _

theorem letGo_oblivious (link : LinkId) :
    Oblivious v I (Act.updateNetwork fun n => n.letGo link : Act κ σ Unit)
      (Act.updateNetwork fun n => n.letGo link) :=
  Oblivious.updateNetwork fun n => Network.cover_letGo v n link

theorem negotiate_oblivious (link : LinkId) (patience : Option Nat) :
    Oblivious v I (negotiate link patience : Act κ σ _) (negotiate link patience) := by
  refine Oblivious.bindSame (exchange_oblivious link patience [] (.extended startTlsOid none))
    fun answer => ?_
  cases answer with
  | error e => exact (letGo_oblivious link).bindSame fun _ => Oblivious.retSame _
  | ok reply =>
      dsimp only
      split
      · exact Oblivious.retSame _
      · exact (letGo_oblivious link).bindSame fun _ => Oblivious.retSame _

theorem dial_oblivious (url : String) (settings : ConnSettings) :
    Oblivious v I (dial url settings : Act κ σ _) (dial url settings) := by
  unfold dial
  split
  · exact Oblivious.retSame _
  · split
    · exact Oblivious.withNetwork fun n => Oblivious.retSame _
    · split
      · exact Oblivious.retSame _
      · exact Oblivious.failWith .panic
      · refine Oblivious.withNetwork fun n => ?_
        dsimp only
        rw [Network.cover_accept]
        cases n.accept _ with
        | none => exact Oblivious.retSame _
        | some accepted =>
            obtain ⟨link, n'⟩ := accepted
            refine Oblivious.bindSame (Oblivious.updateNetwork fun _ => rfl) fun _ => ?_
            split
            · exact negotiate_oblivious link _
            · exact Oblivious.retSame _

theorem requestPage_oblivious (s : Search) (cookie : Octets) :
    Oblivious v I (requestPage s cookie : Act κ σ _) (requestPage s cookie) := by
  unfold requestPage
  refine Oblivious.withNetwork fun n => ?_
  simp only [Network.cover_isOpen, Network.cover_nextReply, Network.cover_sentCount]
  split
  · refine Oblivious.bindSame (Oblivious.updateWorld fun w => ?_) fun _ => Oblivious.retSame _
    exact World.cover_exchange v w s.link (s.page cookie) ServerReply.closesSearch
  · exact Oblivious.retSame _

theorem nextPage_oblivious (stream : SearchStream) (cookie : Octets) :
    Oblivious v I (nextPage stream cookie : Act κ σ _) (nextPage stream cookie) :=
  requestPage_oblivious _ _

theorem startSearch_oblivious (link : LinkId) (patience : Option Nat) (controls : List Control)
    (pageSize : Option Int) (spec : SearchSpec) :
    Oblivious v I (startSearch link patience controls pageSize spec : Act κ σ _)
      (startSearch link patience controls pageSize spec) := by
  unfold startSearch
  split
  · exact Oblivious.retSame _
  · split
    · exact Oblivious.retSame _
    · refine Oblivious.withNetwork fun n => ?_
      rw [Network.cover_sentCount, Network.cover_reader]
      exact requestPage_oblivious _ []

theorem searchAll_oblivious (link : LinkId) (patience : Option Nat) (controls : List Control)
    (spec : SearchSpec) :
    Oblivious v I (searchAll link patience controls spec : Act κ σ _)
      (searchAll link patience controls spec) := by
  refine Oblivious.bindSame (startSearch_oblivious link patience controls none spec)
    fun started => ?_
  split
  · exact Oblivious.retSame _
  · split
    · exact Oblivious.retSame _
    · exact Oblivious.retSame _

theorem orFail_oblivious {δ : Type} [Unveiled δ] {x : Act κ σ (Except ClientError δ)}
    (oblivious : Oblivious v I x x) : Oblivious v I (orFail x) (orFail x) := by
  refine Oblivious.bindSame oblivious fun r => ?_
  cases r with
  | ok a => exact Oblivious.retSame a
  | error e => exact Oblivious.failFixed (DirError.cover_ofClient v e)

end Client

/-! ## Connections -/

namespace Connection

theorem configure_oblivious (factory : Option SocketFactory) (settings : ConnSettings) :
    Oblivious v I (configure factory settings : Act κ σ _) (configure factory settings) := by
  unfold configure
  split
  · exact (Oblivious.record _).bindSame fun _ => Oblivious.retSame _
  · exact (Oblivious.record _).bindSame fun _ => Oblivious.retSame _
  · exact (Oblivious.retSame ()).bindSame fun _ => Oblivious.retSame _

/-- A bind sends the password it is given. -/
theorem bind_oblivious (link : LinkId) (c : Credentials) (controls : List Control) :
    Oblivious v I (bind link c controls : Act κ σ _) (bind link (v.cover c) controls) := by
  refine Oblivious.bindSame
    (Client.exchange_oblivious link none controls (.bind c.bindDn c.password)) fun answer => ?_
  cases answer with
  | error e => exact Oblivious.retFixed (congrArg Except.error (DirError.cover_ofClient v e))
  | ok reply =>
      dsimp only
      split
      · exact Oblivious.retFixed rfl
      · split
        · exact Oblivious.retFixed rfl
        · exact Oblivious.retFixed rfl

theorem open_oblivious (url : String) (config : LdapConfig) (c : Credentials)
    (controls : List Control) :
    Oblivious v I (Connection.open url config c controls : Act κ σ _)
      (Connection.open url (v.cover config) (v.cover c) controls) := by
  refine Oblivious.withWorld fun w => ?_
  refine (configure_oblivious w.slot _).bindSame fun settings => ?_
  refine Oblivious.bindSame (Oblivious.updateNetwork fun _ => rfl) fun _ => ?_
  refine Oblivious.bindSame (Client.dial_oblivious url _) fun dialled => ?_
  cases dialled with
  | error e => exact Oblivious.fail (.communication _ none)
  | ok link =>
      change Oblivious v I (if c.bindDn.isEmpty then _ else _) (if c.bindDn.isEmpty then _ else _)
      split
      · exact Oblivious.retSame link
      · refine (bind_oblivious link c controls).bind fun bound => ?_
        cases bound with
        | ok _ => exact Oblivious.retSame link
        | error e => exact (Client.letGo_oblivious link).bindSame fun _ => Oblivious.fail e

theorem hold_oblivious (link : LinkId) : Oblivious v I (hold link : Act κ σ Unit) (hold link) :=
  Oblivious.updateNetwork fun n => Network.cover_hold v n link

theorem cover_letGo (link : LinkId) (w : World κ) :
    letGo link (v.cover w) = v.cover (letGo link w) :=
  congrArg (fun n => { v.cover w with network := n }) (Network.cover_letGo v w.network link)

theorem release_oblivious (link : LinkId) (url : String) :
    Oblivious v I (release link url : Act κ σ Unit) (release link url) := by
  refine Oblivious.withNetwork fun n => ?_
  rw [Network.cover_shares]
  split
  · refine Oblivious.bindSame (Client.post_oblivious link .unbind) fun posted => ?_
    cases posted with
    | ok _ =>
        refine Oblivious.updateNetwork fun n => ?_
        rw [Network.cover_letGo, Network.cover_shut]
    | error e =>
        exact (Oblivious.warn (.unbindFailed url e)).bindSame fun _ => Client.letGo_oblivious link
  · exact Client.letGo_oblivious link

end Connection

/-! ## Search cursors -/

namespace SearchCursor

theorem cover_stream (v : Veil) (c : SearchCursor) : (v.cover c).stream = c.stream := rfl

theorem cover_peeked (v : Veil) (c : SearchCursor) : (v.cover c).peeked = c.peeked := rfl

theorem cover_keepReferences (v : Veil) (urls : List String) (c : SearchCursor) :
    keepReferences urls (v.cover c) = v.cover (keepReferences urls c) := by
  unfold keepReferences
  change (if c.origin.mode = .throw then _ else _) = _
  split <;> rfl

theorem cover_verdict (v : Veil) (c : SearchCursor) (result : LdapResult) :
    (v.cover c).verdict result = v.cover (c.verdict result) := by
  have origin : (v.cover c).origin = v.cover c.origin := rfl
  unfold verdict
  rw [origin]
  simp only [ReferralOrigin.cover_error]
  split
  · change (if c.references.isEmpty then _ else _) = _
    split <;> rfl
  · split
    · rfl
    · exact congrArg some (DirError.cover_ofResult v result c.base).symm

theorem finish_oblivious (result : LdapResult) :
    Oblivious v Any (finish result : Act κ SearchCursor _) (finish result) := by
  refine Oblivious.withSelf fun c _ => Oblivious.changing (fun _ => rfl) ?_
  rw [cover_verdict]
  cases c.verdict result with
  | none => exact Oblivious.retSame none
  | some e => exact Oblivious.fail e

theorem breakOff_oblivious (e : ClientError) :
    Oblivious v Any (breakOff e : Act κ SearchCursor _) (breakOff e) :=
  Oblivious.changing (fun _ => rfl) (Oblivious.failFixed (DirError.cover_ofClient v e))

theorem fetchPage_oblivious {onward : Act κ SearchCursor (Option SearchResult)}
    (oblivious : Oblivious v Any onward onward) :
    Oblivious v Any (fetchPage onward) (fetchPage onward) := by
  refine Oblivious.withSelf fun c _ => ?_
  rw [cover_stream]
  cases c.stream with
  | none => exact Oblivious.retSame none
  | some stream =>
      refine Oblivious.changing (cover_keepReferences v _) ?_
      split
      · exact Oblivious.changing (fun _ => rfl) (Oblivious.retSame (some _))
      · split
        · exact breakOff_oblivious _
        · split
          · exact finish_oblivious _
          · exact Oblivious.failWith .panic
          · refine Oblivious.bindSame (Client.nextPage_oblivious stream _) fun answer => ?_
            cases answer with
            | error e => exact breakOff_oblivious e
            | ok next =>
                dsimp only
                exact Oblivious.changing (fun _ => rfl) oblivious

theorem fetchWithin_oblivious (pages : Nat) :
    Oblivious v Any (fetchWithin pages : Act κ SearchCursor _) (fetchWithin pages) := by
  induction pages with
  | zero => exact fetchPage_oblivious (finish_oblivious {})
  | succ pages ih => exact fetchPage_oblivious ih

theorem fetch_oblivious : Oblivious v Any (fetch : Act κ SearchCursor _) fetch := by
  refine Oblivious.withSelf fun c _ => Oblivious.withNetwork fun n => ?_
  rw [Network.cover_repliesLeft]
  exact fetchWithin_oblivious _

theorem hasMore_oblivious : Oblivious v Any (hasMore : Act κ SearchCursor _) hasMore := by
  refine Oblivious.withSelf fun c _ => ?_
  rw [cover_peeked]
  cases c.peeked with
  | some _ => exact Oblivious.retSame true
  | none =>
      refine fetch_oblivious.bindSame fun _ => ?_
      exact Oblivious.changing (fun _ => rfl) (Oblivious.retSame _)

theorem next_oblivious : Oblivious v Any (next : Act κ SearchCursor _) next := by
  refine Oblivious.withSelf fun c _ => ?_
  rw [cover_peeked]
  cases c.peeked with
  | some found => exact Oblivious.changing (fun _ => rfl) (Oblivious.retSame (some found))
  | none => exact fetch_oblivious

theorem close_oblivious : Oblivious v Any (close : Act κ SearchCursor _) close := by
  refine Oblivious.withSelf fun c _ => Oblivious.changing (fun _ => rfl) ?_
  rw [cover_stream]
  cases c.stream with
  | none => exact Oblivious.retSame ()
  | some stream =>
      refine Oblivious.bindSame (Client.post_oblivious c.link (.abandon stream.latest))
        fun posted => ?_
      cases posted with
      | ok _ => exact Oblivious.retSame ()
      | error e => exact Oblivious.warn (.abandonFailed c.base e)

theorem cover_remaining (c : SearchCursor) (w : World κ) :
    (v.cover c).remaining (v.cover w) = c.remaining w := by
  have backlog := Network.cover_backlog v w.network c.link
  unfold remaining
  exact congrArg (fun n => _ + n + 1) backlog

instance : ObliviousSource SearchCursor where
  hasMore _ _ _ := hasMore_oblivious
  next _ _ _ := next_oblivious
  close _ _ _ := close_oblivious
  discard _ _ _ c w := Connection.cover_letGo c.link w
  remaining _ _ _ c w := cover_remaining c w

end SearchCursor

/-! ## Contexts over a connection -/

namespace LdapDirContext

theorem openAt_oblivious (url base : String) (config : LdapConfig) (c : Credentials)
    (env : Environment) (controls : List Control) :
    Oblivious v I (openAt url base config c env controls : Act κ σ _)
      (openAt url base (v.cover config) (v.cover c) env controls) :=
  Oblivious.bindSame (Connection.open_oblivious url config c controls) fun _ => Oblivious.ret _

theorem connect_oblivious (config : LdapConfig) (c : Credentials) (env : Environment) :
    Oblivious v I (connect config c env : Act κ σ _) (connect (v.cover config) (v.cover c) env) :=
  openAt_oblivious _ _ config c env _

theorem cover_connection (v : Veil) (c : LdapDirContext) :
    (v.cover c).connection = c.connection := rfl

theorem linkOf_oblivious (c : LdapDirContext) :
    Oblivious v I (c.linkOf : Act κ σ _) (v.cover c).linkOf := by
  unfold linkOf
  rw [cover_connection]
  cases c.connection with
  | some link => exact Oblivious.retSame link
  | none => exact Oblivious.fail .closed

theorem cover_verdict (v : Veil) (c : LdapDirContext) (result : LdapResult) (dn : String) :
    (v.cover c).verdict result dn = v.cover (c.verdict result dn) := by
  have origin : (v.cover c).origin = v.cover c.origin := rfl
  unfold verdict
  rw [origin, ReferralOrigin.cover_error]
  split
  · rfl
  · split
    · rfl
    · exact congrArg Except.error (DirError.cover_ofResult v result dn).symm

theorem check_oblivious (result : LdapResult) (dn : String) :
    Oblivious v Any (check result dn : Act κ LdapDirContext _) (check result dn) := by
  refine Oblivious.changing (fun _ => rfl) (Oblivious.withSelf fun c _ => ?_)
  rw [cover_verdict]
  exact Oblivious.ret (c.verdict result dn)

theorem demand_oblivious (verdict : Except DirError α) :
    Oblivious v I (demand verdict : Act κ σ α) (demand (v.cover verdict)) := by
  cases verdict with
  | ok a => exact Oblivious.ret a
  | error e => exact Oblivious.fail e

/-- A request that is no bind. -/
theorem request_oblivious (dn : String) {r : Request} (fixed : v.cover r = r) :
    Oblivious v Any (request dn r : Act κ LdapDirContext _) (request dn r) := by
  refine Oblivious.withSelf fun c _ => (linkOf_oblivious c).bindSame fun link => ?_
  have exchanged : Oblivious v Any _ _ :=
    Client.exchange_oblivious (κ := κ) (σ := LdapDirContext) link c.patience c.requestControls r
  rw [fixed] at exchanged
  refine (Client.orFail_oblivious exchanged).bindSame fun reply => ?_
  exact Oblivious.bind (check_oblivious _ dn) fun verdict => Oblivious.ret (reply, verdict)

theorem send_oblivious (dn : String) {r : Request} (fixed : v.cover r = r) :
    Oblivious v Any (send dn r : Act κ LdapDirContext _) (send dn r) :=
  Oblivious.bind (request_oblivious dn fixed) fun answer => demand_oblivious answer.2

theorem readEntry_oblivious (dn : String) (names : List String) :
    Oblivious v Any (readEntry dn names : Act κ LdapDirContext _) (readEntry dn names) := by
  refine Oblivious.withSelf fun c _ => (linkOf_oblivious c).bindSame fun link => ?_
  refine (Client.orFail_oblivious (Client.searchAll_oblivious link _ _ _)).bindSame
    fun found => ?_
  refine (check_oblivious _ dn).bind fun verdict => (demand_oblivious verdict).bindSame fun _ => ?_
  split
  · refine Oblivious.withNetwork fun n => ?_
    rw [Network.cover_reader]
    exact Oblivious.retSame _
  · exact Oblivious.fail (.nameNotFound dn)

theorem deleteEntry_oblivious (dn : String) :
    Oblivious v Any (deleteEntry dn : Act κ LdapDirContext _) (deleteEntry dn) := by
  refine Oblivious.bind (request_oblivious dn rfl) fun answer => ?_
  obtain ⟨reply, verdict⟩ := answer
  -- a veil leaves it as it is whether the entry was there
  rcases verdict with e | _
  · cases e with
    | nameNotFound _ => exact Oblivious.retSame ()
    | _ => exact demand_oblivious (.error _)
  · exact demand_oblivious (.ok ())

theorem child_oblivious (base : String) (controls : List Control) :
    Oblivious v Any (child base controls : Act κ LdapDirContext _) (child base controls) := by
  refine Oblivious.withSelf fun c _ => ?_
  rw [cover_connection]
  cases c.connection with
  | some link => exact (Connection.hold_oblivious link).bindSame fun _ => Oblivious.ret _
  | none => exact Oblivious.bindSame (Oblivious.retSame ()) fun _ => Oblivious.ret _

/-! ### Operations on entries -/

theorem bind_oblivious (name : String) (attrs : Attributes) :
    Oblivious v Any (bind name attrs : Act κ LdapDirContext _) (bind name attrs) :=
  Oblivious.withSelf fun _ _ => send_oblivious _ rfl

theorem unbind_oblivious (name : String) :
    Oblivious v Any (unbind name : Act κ LdapDirContext _) (unbind name) :=
  Oblivious.withSelf fun _ _ => deleteEntry_oblivious _

theorem rename_oblivious (name newName : String) :
    Oblivious v Any (rename name newName : Act κ LdapDirContext _) (rename name newName) :=
  Oblivious.withSelf fun _ _ => send_oblivious _ rfl

theorem lookup_oblivious (name : String) :
    Oblivious v Any (lookup name : Act κ LdapDirContext _) (lookup name) :=
  Oblivious.withSelf fun _ _ => (readEntry_oblivious _ _).bindSame fun _ =>
    Oblivious.withSelf fun _ _ => child_oblivious _ _

theorem getAttributes_oblivious (name : String) (ids : Option (List String)) :
    Oblivious v Any (getAttributes name ids : Act κ LdapDirContext _) (getAttributes name ids) :=
  Oblivious.withSelf fun _ _ => (readEntry_oblivious _ _).bindSame fun _ => Oblivious.retSame _

theorem modify_oblivious (name : String) (mods : List Modification) :
    Oblivious v Any (modify name mods : Act κ LdapDirContext _) (modify name mods) := by
  unfold modify
  split
  · exact Oblivious.retSame ()
  · refine Oblivious.withSelf fun c _ => (linkOf_oblivious c).bindSame fun _ => ?_
    dsimp only
    split
    · exact Oblivious.failFixed (DirError.cover_ofClient v _)
    · exact send_oblivious _ rfl

theorem createSubcontext_oblivious (name : String) (attrs : Attributes) :
    Oblivious v Any (createSubcontext name attrs : Act κ LdapDirContext _)
      (createSubcontext name attrs) :=
  (bind_oblivious name attrs).bindSame fun _ => Oblivious.withSelf fun _ _ => child_oblivious _ _

theorem schemaDn_oblivious (dn : String) :
    Oblivious v Any (schemaDn dn : Act κ LdapDirContext _) (schemaDn dn) := by
  refine (readEntry_oblivious dn _).bindSame fun entry => ?_
  split
  · exact Oblivious.retSame _
  · exact (readEntry_oblivious "" _).bindSame fun _ => Oblivious.retSame _

theorem getSchema_oblivious (name : String) :
    Oblivious v Any (getSchema name : Act κ LdapDirContext _) (getSchema name) :=
  Oblivious.withSelf fun _ _ => (schemaDn_oblivious _).bindSame fun _ =>
    Oblivious.withSelf fun _ _ => child_oblivious _ _

theorem getSchemaClassDefinition_oblivious (name : String) :
    Oblivious v Any (getSchemaClassDefinition name : Act κ LdapDirContext _)
      (getSchemaClassDefinition name) :=
  Oblivious.withSelf fun _ _ => (readEntry_oblivious _ _).bindSame fun _ =>
    (schemaDn_oblivious _).bindSame fun _ => (readEntry_oblivious _ _).bindSame fun _ =>
      Oblivious.retSame _

/-! ### Searches -/

theorem search_oblivious (name filter : String) (controls : SearchControls) :
    Oblivious v Any (search name filter controls : Act κ LdapDirContext _)
      (search name filter controls) := by
  refine Oblivious.withSelf fun c _ => (linkOf_oblivious c).bindSame fun link => ?_
  refine Oblivious.bindSame
    (Client.orFail_oblivious (Client.startSearch_oblivious link _ _ _ _)) fun stream => ?_
  refine (Connection.hold_oblivious link).bindSame fun _ => ?_
  exact Oblivious.ret (SearchCursor.new link stream (c.resolve name) c.origin)

theorem searchWithArgs_oblivious (name expr : String) (args : List String)
    (controls : SearchControls) :
    Oblivious v Any (searchWithArgs name expr args controls : Act κ LdapDirContext _)
      (searchWithArgs name expr args controls) := by
  unfold searchWithArgs
  split
  · exact search_oblivious name _ controls
  · exact Oblivious.fail (.invalidData _)

theorem list_oblivious (name : String) :
    Oblivious v Any (list name : Act κ LdapDirContext _) (list name) := by
  refine Oblivious.bind (search_oblivious name _ _) fun cursor => ?_
  refine Oblivious.bind (Oblivious.on (t := .bare cursor) Cursor.collect_oblivious trivial)
    fun pulled => ?_
  obtain ⟨outcome, left⟩ := pulled
  refine Oblivious.bindSame (Oblivious.updateWorld fun w => Cursor.cover_discard left w) fun _ => ?_
  rcases outcome with failure | ⟨results, _ | failure⟩
  · exact Oblivious.failWith failure
  · change Oblivious v Any (pure (results.map nameClassPair))
      (pure ((v.cover results).map nameClassPair))
    rw [Unveiled.cover_eq]
    exact Oblivious.retSame _
  · exact Oblivious.failWith failure

/-! ### Properties and controls -/

theorem addToEnvironment_oblivious (property value : String) :
    Oblivious v Any (addToEnvironment property value : Act κ LdapDirContext _)
      (addToEnvironment property value) :=
  Oblivious.withSelf fun _ _ => Oblivious.changing (fun _ => rfl) (Oblivious.retSame _)

theorem removeFromEnvironment_oblivious (property : String) :
    Oblivious v Any (removeFromEnvironment property : Act κ LdapDirContext _)
      (removeFromEnvironment property) :=
  Oblivious.withSelf fun _ _ => Oblivious.changing (fun _ => rfl) (Oblivious.retSame _)

theorem extendedOperation_oblivious (r : ExtendedRequest) :
    Oblivious v Any (extendedOperation r : Act κ LdapDirContext _) (extendedOperation r) := by
  refine Oblivious.withSelf fun c _ => ?_
  refine Oblivious.bind (request_oblivious c.base rfl) fun answer => ?_
  exact (demand_oblivious answer.2).bindSame fun _ => Oblivious.ret _

theorem newInstance_oblivious (controls : List Control) :
    Oblivious v Any (newInstance controls : Act κ LdapDirContext _) (newInstance controls) :=
  Oblivious.withSelf fun c _ => (linkOf_oblivious c).bindSame fun _ => child_oblivious _ _

theorem reconnect_oblivious (controls : List Control) :
    Oblivious v Any (reconnect controls : Act κ LdapDirContext _) (reconnect controls) := by
  refine Oblivious.withSelf fun c _ => ?_
  refine Oblivious.bindSame (Connection.open_oblivious c.url c.config c.credentials controls)
    fun link => ?_
  refine Oblivious.changing (fun _ => rfl) ?_
  rw [cover_connection]
  cases c.connection with
  | some previous => exact Connection.release_oblivious previous c.url
  | none => exact Oblivious.retSame ()

theorem setRequestControls_oblivious (controls : List Control) :
    Oblivious v Any (setRequestControls controls : Act κ LdapDirContext _)
      (setRequestControls controls) :=
  Oblivious.update (fun _ _ => trivial) fun _ => rfl

theorem close_oblivious : Oblivious v Any (close : Act κ LdapDirContext _) close := by
  refine Oblivious.withSelf fun c _ => Oblivious.changing (fun _ => rfl) ?_
  rw [cover_connection]
  cases c.connection with
  | some link => exact Connection.release_oblivious link c.url
  | none => exact Oblivious.retSame ()

theorem cover_discard (c : LdapDirContext) (w : World κ) :
    (v.cover c).discard (v.cover w) = v.cover (c.discard w) := by
  unfold discard
  rw [cover_connection]
  cases c.connection with
  | some link => exact Connection.cover_letGo link w
  | none => rfl

/-- What hands nothing out. -/
theorem done_oblivious {x : Act κ LdapDirContext Unit} (oblivious : Oblivious v Any x x) :
    Oblivious v Any (do x; return .done : Act κ LdapDirContext (Reply LdapDirContext SearchCursor))
      (do x; return .done) :=
  oblivious.bindSame fun _ => Oblivious.ret Reply.done

/-- Every operation of a context leads the same way under a veil. -/
theorem perform_oblivious (op : Op) :
    Oblivious v Any (perform op : Act κ LdapDirContext _) (perform op) := by
  cases op with
  | bind name attrs => exact done_oblivious (bind_oblivious name attrs)
  | rebind name attrs =>
      exact done_oblivious ((unbind_oblivious name).bindSame fun _ => bind_oblivious name attrs)
  | unbind name => exact done_oblivious (unbind_oblivious name)
  | rename name newName => exact done_oblivious (rename_oblivious name newName)
  | lookup name => exact (lookup_oblivious name).map fun _ => rfl
  | list name => exact (list_oblivious name).mapSame fun _ => rfl
  | getAttributes name ids => exact (getAttributes_oblivious name ids).mapSame fun _ => rfl
  | modify name mods => exact done_oblivious (modify_oblivious name mods)
  | createSubcontext name attrs => exact (createSubcontext_oblivious name attrs).map fun _ => rfl
  | destroySubcontext name => exact done_oblivious (unbind_oblivious name)
  | getSchema name => exact (getSchema_oblivious name).map fun _ => rfl
  | getSchemaClassDefinition name =>
      exact (getSchemaClassDefinition_oblivious name).mapSame fun _ => rfl
  | search name filter controls => exact (search_oblivious name filter controls).map fun _ => rfl
  | searchWithArgs name expr args controls =>
      exact (searchWithArgs_oblivious name expr args controls).map fun _ => rfl
  | searchByAttributes name matching ids => exact (search_oblivious name _ _).map fun _ => rfl
  | addToEnvironment property value =>
      exact (addToEnvironment_oblivious property value).mapSame fun _ => rfl
  | removeFromEnvironment property =>
      exact (removeFromEnvironment_oblivious property).mapSame fun _ => rfl
  | extendedOperation request => exact (extendedOperation_oblivious request).mapSame fun _ => rfl
  | newInstance controls => exact (newInstance_oblivious controls).map fun _ => rfl
  | reconnect controls => exact done_oblivious (reconnect_oblivious controls)
  | setRequestControls controls => exact done_oblivious (setRequestControls_oblivious controls)

end LdapDirContext

end ManagedLdap
