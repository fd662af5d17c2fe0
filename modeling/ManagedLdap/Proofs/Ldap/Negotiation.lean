/-
# ManagedLdap.Proofs.Ldap.Negotiation -- what is sent over a connection while it is opened

Opening makes one attempt to connect.  If a server accepts, it is asked for encryption first,
provided that the configuration wants it, the text of the address starts like a plain one, and
the address is plain.  The bind follows only if the server grants that in time and listens on
(`Opening.requests`).
`Connection.open_sends` says that this is all, request by request.

The newest connection is followed through the steps of opening (`Network.With`): what each of
them appends to what was sent, and whether the server still listens.
-/
import ManagedLdap.Proofs.Ldap.Opening
import ManagedLdap.Proofs.Ldap.PlainAddress

namespace ManagedLdap

set_option autoImplicit false

/-! ## Requests of an opening -/

namespace Url

/-- The server of an address as the client calls it. -/
def server? (u : Url) : Option String :=
  match Client.defaultPort? u.scheme, u.host with
  | some port, some host => some (host ++ ":" ++ toString (u.port.getD port))
  | _, _ => none

theorem directory_scheme {u : Url} {server : String} (called : u.server? = some server) :
    u.scheme = "ldap" ∨ u.scheme = "ldaps" := by
  by_cases isLdap : u.scheme = "ldap"
  · exact .inl isLdap
  · by_cases isLdaps : u.scheme = "ldaps"
    · exact .inr isLdaps
    · simp [Url.server?, Client.defaultPort?, isLdap, isLdaps] at called

end Url

/-- A server grants a request. -/
def ServerReply.grants (r : ServerReply) : Bool := !r.drop && r.result.code == 0

/-- The first reply of the next connection to a server. -/
def Network.greeting (n : Network) (server : String) : ServerReply :=
  match n.listeners.find? fun l => l.address == server with
  | some listener => (listener.scripts.headD []).headD {}
  | none => {}

/-- The request for encryption. -/
def SentRequest.startTls : SentRequest := ⟨.extended Client.startTlsOid none, []⟩

/-- What a connection is opened with. -/
structure Opening where
  url : String
  config : LdapConfig
  credentials : Credentials
  controls : List Control

namespace Opening

/-- Whether the connection is to be encrypted on request. -/
def startTls (o : Opening) : Bool := Connection.wantsStartTls o.config o.url

theorem startTls_eq (o : Opening) :
    o.startTls = (o.config.useStartTls && Url.spellsPlain o.url) := rfl

/-- How many seconds the request for encryption may take. -/
def timeoutSecs (o : Opening) : Nat := o.config.connection.connectionTimeoutSecs

/-- The attempt to connect. -/
def dial (o : Opening) (slot : Slot) : Dial :=
  .configured o.url slot ⟨o.timeoutSecs, o.startTls, none⟩

/-- The bind of an identity; none without one. -/
def binds (o : Opening) : List SentRequest :=
  if o.credentials.bindDn.isEmpty then []
  else [⟨.bind o.credentials.bindDn o.credentials.password, o.controls⟩]

/-- Whether the server of an address is asked for encryption. -/
def asks (o : Opening) (u : Url) : Bool := o.startTls && u.scheme == "ldap"

/-- Whether a bind can follow the request for encryption: the server grants that in time, and
listens on. -/
def allows (o : Opening) (greeting : ServerReply) : Bool :=
  greeting.grants && !greeting.isLate (some o.timeoutSecs) && !greeting.hangUp

theorem grants_of_allows {o : Opening} {greeting : ServerReply}
    (allowed : o.allows greeting = true) :
    greeting.grants = true := by
  simp only [allows, Bool.and_eq_true] at allowed
  exact allowed.1.1

/-- All that is sent over a connection while it is opened.  The server is asked for encryption
first, and nothing else is sent unless that goes well. -/
def requests (o : Opening) (u : Url) (greeting : ServerReply) : List SentRequest :=
  if o.asks u then .startTls :: if o.allows greeting then o.binds else []
  else o.binds

theorem requests_of_ready {o : Opening} {u : Url} {greeting : ServerReply}
    (ready : o.asks u = false ∨ o.allows greeting = true) :
    o.requests u greeting = (if o.asks u then [.startTls] else []) ++ o.binds := by
  unfold requests
  cases asks : o.asks u with
  | false => rfl
  | true =>
      have granted := ready.resolve_left (by rw [asks]; decide)
      simp [granted]

theorem requests_of_refused {o : Opening} {u : Url} {greeting : ServerReply}
    (asks : o.asks u = true) (refused : o.allows greeting = false) :
    o.requests u greeting = [.startTls] := by
  simp [requests, asks, refused]

end Opening

/-! ## The newest connection -/

/-- `n'` is `n` after an attempt to open a connection, which led to at most one. -/
structure Network.Attempted (o : Opening) (slot : Slot) (n n' : Network) : Prop where
  dials : n'.dials = n.dials ++ [o.dial slot]
  links : n'.links = n.links ∨ ∃ u server l, Url.parse o.url = .ok u ∧ u.server? = some server ∧
    n'.links = n.links ++ [l] ∧ l.sent = o.requests u (n.greeting server)

/-- `n'` is `n` with one more connection, the last one. -/
structure Network.With (n : Network) (l : Link) (n' : Network) : Prop where
  dials : n'.dials = n.dials
  links : n'.links = n.links ++ [l]

namespace Network.With

variable {n n' : Network} {l : Link}

theorem modify (last : n.With l n') (f : Link → Link) :
    n.With (f l) (n'.modifyLink n.links.length f) := by
  refine ⟨last.dials, ?_⟩
  change n'.links.modify n.links.length f = _
  rw [last.links, modify_last]

theorem link? (last : n.With l n') : n'.link? n.links.length = some l := by
  simp only [Network.link?, last.links, List.getElem?_concat_length]

theorem isOpen (last : n.With l n') : n'.isOpen n.links.length = l.isOpen := by
  simp only [Network.isOpen, last.link?]

theorem nextReply (last : n.With l n') : n'.nextReply n.links.length = l.script.headD {} := by
  simp only [Network.nextReply, last.link?]

/-- The connection that a server accepts. -/
theorem of_accept {server : String} {link : LinkId} (accepted : n.accept server = some (link, n')) :
    link = n.links.length ∧ ∃ l, n.With l n' ∧ l.sent = [] ∧ l.isOpen = true ∧
      l.script.headD {} = n.greeting server := by
  unfold accept at accepted
  split at accepted
  · cases accepted
  · next listener found =>
    obtain ⟨rfl, rfl⟩ := Prod.mk.inj (Option.some.inj accepted)
    refine ⟨rfl, _, ⟨rfl, rfl⟩, rfl, rfl, ?_⟩
    simp only [greeting, found]

end Network.With

/-! ## Steps of opening -/

namespace Client

variable {κ σ : Type} {n : Network} {w : World κ} {l : Link}

/-- A request over the last connection. -/
theorem exchange_with (last : n.With l w.network) (opened : l.isOpen = true)
    (patience : Option Nat) (controls : List Control) (request : Request) (s : σ) :
    let reply := l.script.headD {}
    ∃ w', exchange n.links.length patience controls request s w =
        (.ok (reply.heard patience), s, w') ∧
      n.With { l with script := l.script.drop 1, sent := l.sent ++ [⟨request, controls⟩],
                      isOpen := !reply.closes } w'.network := by
  intro reply
  have listens := last.isOpen.trans opened
  have next := last.nextReply
  refine ⟨_, by
    simp only [exchange, Act.bind_apply, Act.network_apply, if_pos listens, next]
    rfl, ?_⟩
  have after := (last.modify fun l => { l with sent := l.sent ++ [⟨request, controls⟩] }).modify
    fun l => { l with script := l.script.drop 1, isOpen := l.isOpen && !reply.closes }
  simp only [opened, Bool.true_and] at after
  change n.With _ (((w.network.send n.links.length ⟨request, controls⟩).takeReply n.links.length
    (w.network.nextReply n.links.length).closes))
  rw [next]
  exact after

/-- Over a connection that is closed nothing is sent. -/
theorem exchange_shut (last : n.With l w.network) (shut : l.isOpen = false)
    (patience : Option Nat) (controls : List Control) (request : Request) (s : σ) :
    exchange n.links.length patience controls request s w = (.ok (.error .sendOnClosed), s, w) := by
  have deaf := last.isOpen.trans shut
  simp only [exchange, Act.bind_apply, Act.network_apply, deaf, Bool.false_eq_true, if_false]
  rfl

/-- Encryption is asked for over the last connection, which is used if it is granted in time. -/
theorem negotiate_with (last : n.With l w.network) (opened : l.isOpen = true) (limit : Nat)
    (s : σ) :
    ∃ r w' l', negotiate n.links.length (some limit) s w = (.ok r, s, w') ∧ n.With l' w'.network ∧
      l'.sent = l.sent ++ [.startTls] ∧
      if (l.script.headD {}).grants && !(l.script.headD {}).isLate (some limit) then
        r = .ok n.links.length ∧ l'.isOpen = !(l.script.headD {}).hangUp
      else ∃ e, r = .error e := by
  obtain ⟨w₁, exchanged, last₁⟩ :=
    exchange_with last opened (some limit) [] (.extended startTlsOid none) s
  have givenUp := last₁.modify fun l => { l with shares := l.shares - 1 }
  simp only [negotiate, Act.bind_apply, exchanged]
  generalize l.script.headD {} = reply at last₁ givenUp ⊢
  by_cases late : reply.isLate (some limit) = true
  · simp only [ServerReply.heard, if_pos late]
    exact ⟨_, _, _, rfl, givenUp, rfl, by simp [late]⟩
  by_cases dropped : reply.drop = true
  · simp only [ServerReply.heard, if_neg late, if_pos dropped]
    exact ⟨_, _, _, rfl, givenUp, rfl, by simp [ServerReply.grants, dropped]⟩
  · simp only [ServerReply.heard, if_neg late, if_neg dropped]
    by_cases granted : reply.result.code = 0
    · simp only [if_pos granted]
      exact ⟨_, _, _, rfl, last₁, rfl, by
        simp [ServerReply.grants, ServerReply.closes, late, dropped, granted]⟩
    · simp only [if_neg granted]
      exact ⟨_, _, _, rfl, givenUp, rfl, by simp [ServerReply.grants, granted]⟩

/-- A connection to the server of `u` that was asked for encryption, if it is to be, and how
that ended: `r` is the connection if nothing keeps it from being used. -/
structure Dialled (settings : ConnSettings) (u : Url) (greeting : ServerReply) (n : Network)
    (l : Link) (r : Except Failure (Except ClientError LinkId)) : Prop where
  sent : l.sent = if settings.startTls && u.scheme == "ldap" then [.startTls] else []
  plain : (settings.startTls && u.scheme == "ldap") = false →
    r = .ok (.ok n.links.length) ∧ l.isOpen = true
  asked : (settings.startTls && u.scheme == "ldap") = true →
    if greeting.grants && !greeting.isLate (some settings.timeoutSecs) then
      r = .ok (.ok n.links.length) ∧ l.isOpen = !greeting.hangUp
    else ∃ e, r = .ok (.error e)

/-- What dialling leaves: no connection, or one to the server of the address. -/
def Attempt (url : String) (settings : ConnSettings) (n : Network)
    (r : Except Failure (Except ClientError LinkId)) (n' : Network) : Prop :=
  (n'.dials = n.dials ∧ n'.links = n.links ∧ ∀ k, r ≠ .ok (.ok k)) ∨
    ∃ u server l, Url.parse url = .ok u ∧ u.server? = some server ∧ n.With l n' ∧
      Dialled settings u (n.greeting server) n l r

theorem Attempt.nowhere {url : String} {settings : ConnSettings} {n : Network}
    {r : Except Failure (Except ClientError LinkId)} (fails : ∀ k, r ≠ .ok (.ok k)) :
    Attempt url settings n r n :=
  .inl ⟨rfl, rfl, fails⟩

/-- A call that dials, and does nothing to its object. -/
def Attempts (url : String) (settings : ConnSettings) (x : Act κ σ (Except ClientError LinkId)) :
    Prop :=
  ∀ s w, (x s w).2.1 = s ∧ Attempt url settings w.network (x s w).1 (x s w).2.2.network

theorem dial_attempts (url : String) (settings : ConnSettings) :
    Attempts url settings (dial url settings : Act κ σ _) := by
  unfold dial
  split
  · exact fun s w => ⟨rfl, .nowhere fun k same => by cases same⟩
  next u parsed =>
  split
  · exact fun s w => ⟨rfl, .nowhere fun k same => by cases same⟩
  split
  · exact fun s w => ⟨rfl, .nowhere fun k same => by cases same⟩
  · exact fun s w => ⟨rfl, .nowhere fun k same => by cases same⟩
  next port host known named =>
  intro s w
  simp only [Act.bind_apply, Act.network_apply]
  cases accepted : w.network.accept (host ++ ":" ++ toString (u.port.getD port)) with
  | none => exact ⟨rfl, .nowhere fun k same => by cases same⟩
  | some made =>
      obtain ⟨link, n⟩ := made
      obtain ⟨rfl, l, last, unsent, opened, greets⟩ := Network.With.of_accept accepted
      have called : u.server? = some (host ++ ":" ++ toString (u.port.getD port)) := by
        simp only [Url.server?, known, named]
      simp only [Act.bind_apply, Act.updateNetwork_apply]
      by_cases asks : (settings.startTls && u.scheme == "ldap") = true
      · obtain ⟨r, w', l', negotiated, last', sent, granted⟩ :=
          negotiate_with (w := { w with network := n }) last opened settings.timeoutSecs s
        rw [if_pos asks, negotiated]
        rw [greets] at granted
        refine ⟨rfl, .inr ⟨u, _, l', parsed, called, last', ?_,
          fun plain => absurd plain (by rw [asks]; decide), fun _ => ?_⟩⟩
        · rw [if_pos asks, sent, unsent, List.nil_append]
        · split at granted
          · next yes =>
            obtain ⟨rfl, still⟩ := granted
            rw [if_pos yes]
            exact ⟨rfl, still⟩
          · next no =>
            obtain ⟨e, rfl⟩ := granted
            rw [if_neg no]
            exact ⟨e, rfl⟩
      · rw [if_neg asks]
        refine ⟨rfl, .inr ⟨u, _, l, parsed, called, last, ?_, fun _ => ⟨rfl, opened⟩,
          fun asked => absurd asked asks⟩⟩
        rw [if_neg asks, unsent]

end Client

namespace Connection

variable {κ σ : Type} {n : Network} {w : World κ} {l : Link}

theorem bind_with (last : n.With l w.network) (opened : l.isOpen = true)
    (credentials : Credentials) (controls : List Control) (s : σ) :
    ∃ r w' l', Connection.bind n.links.length credentials controls s w = (.ok r, s, w') ∧
      n.With l' w'.network ∧
      l'.sent = l.sent ++ [⟨.bind credentials.bindDn credentials.password, controls⟩] := by
  obtain ⟨w', exchanged, last'⟩ := Client.exchange_with last opened none controls
    (.bind credentials.bindDn credentials.password) s
  simp only [Connection.bind, Act.bind_apply, exchanged]
  cases (l.script.headD {}).heard none with
  | error e => exact ⟨_, w', _, rfl, last', rfl⟩
  | ok reply =>
      dsimp only
      split
      · exact ⟨_, w', _, rfl, last', rfl⟩
      · split
        · exact ⟨_, w', _, rfl, last', rfl⟩
        · exact ⟨_, w', _, rfl, last', rfl⟩

theorem bind_shut (last : n.With l w.network) (shut : l.isOpen = false)
    (credentials : Credentials) (controls : List Control) (s : σ) :
    ∃ e, Connection.bind n.links.length credentials controls s w = (.ok (.error e), s, w) := by
  refine ⟨.ofClient .sendOnClosed, ?_⟩
  simp only [Connection.bind, Act.bind_apply, Client.exchange_shut last shut]
  rfl

/-- What is to be sent beside what dialling sent: the bind, if the connection can be used for
it. -/
theorem requests_of_dialled {o : Opening} {settings : ConnSettings} {u : Url}
    {greeting : ServerReply} {r : Except Failure (Except ClientError LinkId)}
    (asking : settings.startTls = o.startTls) (limit : settings.timeoutSecs = o.timeoutSecs)
    (dialled : Client.Dialled settings u greeting n l r) :
    (r = .ok (.ok n.links.length) ∧
        o.requests u greeting = l.sent ++ if l.isOpen then o.binds else []) ∨
      (∃ e, r = .ok (.error e)) ∧ o.requests u greeting = l.sent := by
  obtain ⟨sent, plain, asked⟩ := dialled
  rw [asking] at sent plain asked
  rw [limit] at asked
  replace sent : l.sent = if o.asks u then [.startTls] else [] := sent
  cases asks : o.asks u with
  | false =>
      obtain ⟨usable, opened⟩ := plain asks
      refine .inl ⟨usable, ?_⟩
      rw [sent, opened, Opening.requests_of_ready (.inl asks), if_pos rfl]
  | true =>
      replace asked := asked asks
      rw [asks, if_pos rfl] at sent
      split at asked
      · next granted =>
        obtain ⟨usable, opened⟩ := asked
        refine .inl ⟨usable, ?_⟩
        cases ends : greeting.hangUp with
        | false =>
            have allowed : o.allows greeting = true := by simp [Opening.allows, granted, ends]
            rw [Opening.requests_of_ready (.inr allowed), asks, sent, opened, ends]
            rfl
        | true =>
            have refused : o.allows greeting = false := by simp [Opening.allows, ends]
            rw [Opening.requests_of_refused asks refused, sent, opened, ends]
            rfl
      · next denied =>
        have refused : o.allows greeting = false := by
          rw [Opening.allows, Bool.eq_false_iff.2 denied, Bool.false_and]
        exact .inr ⟨asked, by rw [Opening.requests_of_refused asks refused, sent]⟩

/-- **What opening sends.**  One attempt is recorded.  Of a connection that it leads to, all
that was sent is the request for encryption, if it was to be made, and the bind, if there is an
identity and nothing keeps it from being sent. -/
theorem open_sends (o : Opening) (s : σ) (w : World κ) :
    w.network.Attempted o w.slot
      (Connection.open o.url o.config o.credentials o.controls s w).2.2.network := by
  obtain ⟨w₁, configured, same⟩ := configure_network w.slot (settings o.config o.url) s w
  have start : w₁.network.recordDial (o.dial w.slot) =
      { w.network with dials := w.network.dials ++ [o.dial w.slot] } := by
    rw [same]
    rfl
  have asking : (SocketFactory.configured w.slot (settings o.config o.url)).startTls =
      o.startTls := SocketFactory.configured_startTls ..
  have limit : (SocketFactory.configured w.slot (settings o.config o.url)).timeoutSecs =
      o.timeoutSecs := SocketFactory.configured_timeoutSecs ..
  have recorded : (⟨o.url, w.slot, SocketFactory.configured w.slot (settings o.config o.url)⟩ :
      Dial) = o.dial w.slot := rfl
  simp only [«open», Act.bind_apply, Act.world_apply, configured, Act.updateNetwork_apply,
    recorded]
  generalize SocketFactory.configured w.slot (settings o.config o.url) = settings
    at asking limit
  obtain ⟨kept, attempt⟩ := Client.dial_attempts o.url settings s
    { w₁ with network := w₁.network.recordDial (o.dial w.slot) }
  generalize Client.dial o.url settings s
    { w₁ with network := w₁.network.recordDial (o.dial w.slot) } = y at kept attempt ⊢
  obtain ⟨r, s', w₂⟩ := y
  obtain rfl : s' = s := kept
  simp only [start] at attempt
  rcases attempt with ⟨dials, links, fails⟩ | ⟨u, server, l, parsed, called, last, dialled⟩
  · rcases r with failure | e | k
    · exact ⟨dials, .inl links⟩
    · exact ⟨dials, .inl links⟩
    · exact absurd rfl (fails k)
  let n₀ : Network := { w.network with dials := w.network.dials ++ [o.dial w.slot] }
  have made : ∀ {l' n'}, n₀.With l' n' → l'.sent = o.requests u (w.network.greeting server) →
      w.network.Attempted o w.slot n' :=
    fun last' sent => ⟨last'.dials, .inr ⟨u, server, _, parsed, called, last'.links, sent⟩⟩
  rcases requests_of_dialled asking limit dialled with ⟨rfl, all⟩ | ⟨⟨e, rfl⟩, all⟩
  · replace all : o.requests u (w.network.greeting server) =
      l.sent ++ if l.isOpen then o.binds else [] := all
    dsimp only
    split
    · next nobody =>
      refine made last ?_
      rw [all, Opening.binds, if_pos nobody, ite_self, List.append_nil]
    · next somebody =>
      simp only [Act.bind_apply]
      cases opened : l.isOpen with
      | true =>
          obtain ⟨r, w', l', bound, last', sent⟩ := bind_with last opened o.credentials o.controls s'
          replace sent : l'.sent = o.requests u (w.network.greeting server) := by
            rw [all, opened, if_pos rfl, Opening.binds, if_neg somebody, sent]
          rw [bound]
          cases r with
          | ok _ => exact made last' sent
          | error e => exact made (last'.modify fun l => { l with shares := l.shares - 1 }) sent
      | false =>
          obtain ⟨e, failed⟩ := bind_shut last opened o.credentials o.controls s'
          rw [failed]
          refine made (last.modify fun l => { l with shares := l.shares - 1 }) ?_
          rw [all, opened]
          exact (List.append_nil _).symm
  · exact made last all.symm

end Connection

end ManagedLdap
