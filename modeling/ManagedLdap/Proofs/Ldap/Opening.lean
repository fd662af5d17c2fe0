/-
# ManagedLdap.Proofs.Ldap.Opening -- how a connection begins and how it is given up

Opening leaves every connection that was there as it was.  It makes at most one more, over
which nothing but a request for encryption and a bind is sent; if it succeeds its caller has
the only share of that connection, and otherwise nobody has one (`open_grows`).

Giving up a share by closing or by moving to another connection ends the connection with an
unbind request if the share was the last one (`Link.released`); dropping a share only counts
it off (`Link.dropped`).
-/
import ManagedLdap.Proofs.Ldap.Calls

namespace ManagedLdap

set_option autoImplicit false

open Act (Talks)

/-! ## Opening -/

/-- Requests that begin a connection. -/
def SentRequest.Begins (credentials : Credentials) (controls : List Control) (r : SentRequest) :
    Prop :=
  r = ⟨.extended Client.startTlsOid none, []⟩ ∨
    r = ⟨.bind credentials.bindDn credentials.password, controls⟩

/-- At most one connection was made, over which only requests that meet `P` were sent.  It has
one share if it is the result, and none if there is no result. -/
def Network.Grown (P : SentRequest → Prop) (n n' : Network) (opened : Option LinkId) : Prop :=
  ∃ new, n'.links = n.links ++ new ∧ (∀ l ∈ new, ∀ r ∈ l.sent, P r) ∧
    match opened with
    | some k => k = n.links.length ∧ ∃ l, new = [l] ∧ l.shares = 1
    | none => ∀ l ∈ new, l.shares = 0

namespace Network

variable {P : SentRequest → Prop} {n n' : Network}

theorem Grown.none (same : n'.links = n.links) : Grown P n n' none :=
  ⟨[], by rw [same, List.append_nil], List.forall_mem_nil _, List.forall_mem_nil _⟩

theorem Grown.mono {Q : SentRequest → Prop} {opened : Option LinkId} (weaker : ∀ r, P r → Q r)
    (grown : Grown P n n' opened) : Grown Q n n' opened := by
  obtain ⟨new, links, met, kept⟩ := grown
  exact ⟨new, links, fun l among r sent => weaker r (met l among r sent), kept⟩

/-- The newest connection while it is being opened: it has one share. -/
def Newest (P : SentRequest → Prop) (n n' : Network) : Prop :=
  ∃ l, n'.links = n.links ++ [l] ∧ l.shares = 1 ∧ ∀ r ∈ l.sent, P r

theorem modify_last (old : List Link) (l : Link) (f : Link → Link) :
    (old ++ [l]).modify old.length f = old ++ [f l] := by
  induction old with
  | nil => rfl
  | cons first rest ih => simp [ih]

theorem Newest.talked {n'' : Network} (newest : Newest P n n')
    (talked : Talked (some n.links.length) P n' n'') : Newest P n n'' := by
  obtain ⟨l, links, share, met⟩ := newest
  obtain ⟨f, meet, rfl⟩ := talked
  obtain ⟨more, sent, met'⟩ := (meet l).sent
  refine ⟨f l, ?_, (meet l).shares.trans share, fun r among => ?_⟩
  · change n'.links.modify n.links.length f = _
    rw [links, modify_last]
  · rw [sent] at among
    rcases List.mem_append.1 among with early | late
    · exact met r early
    · exact met' r late

theorem Newest.kept (newest : Newest P n n') : Grown P n n' (some n.links.length) := by
  obtain ⟨l, links, share, met⟩ := newest
  refine ⟨[l], links, fun l' among => ?_, rfl, l, rfl, share⟩
  rwa [List.mem_singleton.1 among]

theorem Grown.newest {k : LinkId} (grown : Grown P n n' (some k)) :
    k = n.links.length ∧ Newest P n n' := by
  obtain ⟨new, links, met, place, l, rfl, share⟩ := grown
  exact ⟨place, l, links, share, met l List.mem_cons_self⟩

theorem Grown.since {m : Network} {opened : Option LinkId} (same : m.links = n.links)
    (grown : Grown P m n' opened) : Grown P n n' opened := by
  unfold Grown at *
  rwa [← same]

theorem Newest.givenUp (newest : Newest P n n') :
    Grown P n (n'.letGo n.links.length) Option.none := by
  obtain ⟨l, links, share, met⟩ := newest
  refine ⟨[{ l with shares := l.shares - 1 }], ?_, fun l' among => ?_, fun l' among => ?_⟩
  · change n'.links.modify n.links.length _ = _
    rw [links, modify_last]
  · rw [List.mem_singleton.1 among]
    exact met
  · rw [List.mem_singleton.1 among]
    exact Nat.sub_eq_zero_of_le (Nat.le_of_eq share)

theorem accept_newest {address : String} {link : LinkId}
    (accepted : n.accept address = some (link, n')) :
    link = n.links.length ∧ Newest P n n' := by
  unfold accept at accepted
  split at accepted
  · cases accepted
  · obtain ⟨rfl, rfl⟩ := Prod.mk.inj (Option.some.inj accepted)
    exact ⟨rfl, _, rfl, rfl, fun _ absent => by cases absent⟩

end Network

namespace Client

variable {κ σ : Type} {P : SentRequest → Prop} {n : Network}

/-- The connection that a call opened. -/
def opened? : Except Failure (Except ClientError LinkId) → Option LinkId
  | .ok (.ok link) => some link
  | _ => none

/-- The last step of dialling, on a connection that was just made. -/
theorem negotiate_grows (met : P ⟨.extended startTlsOid none, []⟩) (patience : Option Nat) (s : σ)
    (w : World κ) (newest : n.Newest P w.network) :
    let x := negotiate n.links.length patience s w
    x.2.1 = s ∧ n.Grown P x.2.2.network (opened? x.1) := by
  have talks : Talks (some n.links.length) P (s = ·) (fun _ => True)
      (exchange n.links.length patience [] (.extended startTlsOid none) : Act κ σ _) :=
    exchange_talks met
  obtain ⟨same, talked, -⟩ := talks s w rfl
  obtain ⟨answer, answered⟩ :=
    exchange_answers n.links.length patience [] (.extended startTlsOid none) s w
  simp only [negotiate, Act.bind_apply]
  generalize exchange n.links.length patience [] (.extended startTlsOid none) s w = y
    at same talked answered ⊢
  obtain ⟨r, s', w'⟩ := y
  obtain rfl : r = .ok answer := answered
  have still := newest.talked talked.network
  cases answer with
  | error e => exact ⟨same.symm, still.givenUp⟩
  | ok reply =>
      dsimp only
      split
      · exact ⟨same.symm, still.kept⟩
      · exact ⟨same.symm, still.givenUp⟩

/-- A call that opens a connection or leaves no share of one. -/
def Opens (P : SentRequest → Prop) {α : Type} (opened : Except Failure α → Option LinkId)
    (x : Act κ σ α) : Prop :=
  ∀ s w, (x s w).2.1 = s ∧ w.network.Grown P (x s w).2.2.network (opened (x s w).1)

theorem dial_opens (met : P ⟨.extended startTlsOid none, []⟩) (url : String)
    (settings : ConnSettings) : Opens P opened? (dial url settings : Act κ σ _) := by
  unfold dial
  split
  · exact fun _ _ => ⟨rfl, .none rfl⟩
  · split
    · exact fun _ _ => ⟨rfl, .none rfl⟩
    · split
      · exact fun _ _ => ⟨rfl, .none rfl⟩
      · exact fun _ _ => ⟨rfl, .none rfl⟩
      · intro s w
        simp only [Act.bind_apply, Act.network_apply]
        generalize accepted : w.network.accept _ = found
        rcases found with _ | ⟨link, n⟩
        · exact ⟨rfl, .none rfl⟩
        · obtain ⟨rfl, newest⟩ : _ ∧ Network.Newest P _ _ := Network.accept_newest accepted
          simp only [Act.bind_apply, Act.updateNetwork_apply]
          split
          · exact negotiate_grows met _ s _ newest
          · exact ⟨rfl, newest.kept⟩

end Client

namespace Connection

variable {κ σ : Type}

theorem configure_network (factory : Option SocketFactory) (settings : ConnSettings) (s : σ)
    (w : World κ) :
    ∃ w', configure factory settings s w =
        (.ok (SocketFactory.configured factory settings), s, w') ∧ w'.network = w.network := by
  unfold configure
  split
  · exact ⟨_, rfl, rfl⟩
  · exact ⟨_, rfl, rfl⟩
  · exact ⟨_, rfl, rfl⟩

theorem bind_talks {P : SentRequest → Prop} {I : σ → Prop} {k : LinkId}
    {credentials : Credentials} {controls : List Control}
    (met : P ⟨.bind credentials.bindDn credentials.password, controls⟩) :
    Talks (some k) P I (fun _ => True) (Connection.bind k credentials controls : Act κ σ _) := by
  refine (Client.exchange_talks met).bind fun r _ => ?_
  cases r with
  | error e => exact .ret trivial
  | ok reply =>
      dsimp only
      split
      · exact .ret trivial
      · split
        · exact .ret trivial
        · exact .ret trivial

theorem bind_answers (k : LinkId) (credentials : Credentials) (controls : List Control) (s : σ)
    (w : World κ) : ∃ r, (Connection.bind k credentials controls s w).1 = .ok r := by
  obtain ⟨answer, answered⟩ := Client.exchange_answers k none controls
    (.bind credentials.bindDn credentials.password) s w
  simp only [Connection.bind, Act.bind_apply]
  generalize Client.exchange k none controls _ s w = y at answered ⊢
  obtain ⟨r, s', w'⟩ := y
  obtain rfl : r = .ok answer := answered
  cases answer with
  | error e => exact ⟨_, rfl⟩
  | ok reply =>
      dsimp only
      split
      · exact ⟨_, rfl⟩
      · split
        · exact ⟨_, rfl⟩
        · exact ⟨_, rfl⟩

/-- **Opening.**  Every connection stays as it was, and at most one was made; it belongs to
the caller, or to nobody if opening failed. -/
theorem open_grows (url : String) (config : LdapConfig) (credentials : Credentials)
    (controls : List Control) :
    Client.Opens (SentRequest.Begins credentials controls) Except.toOption
      (Connection.open url config credentials controls : Act κ σ _) := by
  intro s w
  obtain ⟨w₁, configured, links⟩ := configure_network w.slot (settings config url) s w
  simp only [«open», Act.bind_apply, Act.world_apply, configured, Act.updateNetwork_apply]
  generalize SocketFactory.configured w.slot (settings config url) = settings
  have dials : Client.Opens (SentRequest.Begins credentials controls) Client.opened?
      (Client.dial url settings : Act κ σ _) := Client.dial_opens (.inl rfl) _ _
  obtain ⟨same, grown⟩ := dials s
    { w₁ with network := w₁.network.recordDial ⟨url, w.slot, settings⟩ }
  generalize Client.dial url settings s
    { w₁ with network := w₁.network.recordDial ⟨url, w.slot, settings⟩ } = y at same grown ⊢
  obtain ⟨r, s', w₂⟩ := y
  replace grown : w.network.Grown _ w₂.network (Client.opened? r) := grown.since (links ▸ rfl)
  obtain rfl : s' = s := same
  rcases r with failure | e | k
  · exact ⟨rfl, grown⟩
  · exact ⟨rfl, grown⟩
  · obtain ⟨rfl, newest⟩ := grown.newest
    dsimp only
    split
    · exact ⟨rfl, grown⟩
    · have talks : Talks (some w.network.links.length) (SentRequest.Begins credentials controls)
          (s' = ·) (fun _ => True)
          (Connection.bind w.network.links.length credentials controls : Act κ σ _) :=
        bind_talks (.inr rfl)
      obtain ⟨same, talked, -⟩ := talks s' w₂ rfl
      obtain ⟨answer, answered⟩ :=
        bind_answers w.network.links.length credentials controls s' w₂
      simp only [Act.bind_apply]
      generalize Connection.bind w.network.links.length credentials controls s' w₂ = z
        at same talked answered ⊢
      obtain ⟨r, s'', w₃⟩ := z
      obtain rfl : r = .ok answer := answered
      have still := newest.talked talked.network
      cases answer with
      | ok _ => exact ⟨same.symm, still.kept⟩
      | error e => exact ⟨same.symm, still.givenUp⟩

end Connection

/-! ## Giving up -/

namespace Link

/-- A connection with one holder less. -/
def dropped (l : Link) : Link := { l with shares := l.shares - 1 }

/-- A connection whose share was given up: the last holder unbinds, if the server listens. -/
def released (l : Link) : Link :=
  if l.shares = 1 ∧ l.isOpen = true then
    { l with sent := l.sent ++ [⟨.unbind, []⟩], shares := 0, isOpen := false }
  else l.dropped

end Link

namespace Connection

variable {κ σ : Type}

/-- Giving up a share touches no other connection, and never fails. -/
theorem release_network (k : LinkId) (url : String) (s : σ) (w : World κ) :
    ∃ w', release k url s w = (.ok (), s, w') ∧
      w'.network = w.network.modifyLink k Link.released := by
  have sharesOf : ∀ l, w.network.link? k = some l → w.network.shares k = l.shares := by
    intro l found
    simp only [Network.shares, found]
  have listens : ∀ l, w.network.link? k = some l → w.network.isOpen k = l.isOpen := by
    intro l found
    simp only [Network.isOpen, found]
  by_cases last : w.network.shares k = 1
  · cases opened : w.network.isOpen k with
    | true =>
        refine ⟨{ w with network := ((w.network.send k ⟨.unbind, []⟩).letGo k).shut k }, ?_, ?_⟩
        · simp [release, Act.bind_apply, last, Client.post_apply, opened]
        · simp only [Network.send, Network.letGo, Network.shut, Network.modifyLink_modifyLink]
          refine Network.modifyLink_congr fun l found => ?_
          have one : l.shares = 1 := sharesOf l found ▸ last
          have listening : l.isOpen = true := listens l found ▸ opened
          simp [Link.released, one, listening]
    | false =>
        refine ⟨letGo k (w.warn (.unbindFailed url .sendOnClosed)), ?_, ?_⟩
        · simp [release, Act.bind_apply, last, Client.post_apply, opened, letGo, World.warn]
        · refine Network.modifyLink_congr fun l found => ?_
          have deaf : l.isOpen = false := listens l found ▸ opened
          simp [Link.released, Link.dropped, deaf]
  · refine ⟨letGo k w, ?_, Network.modifyLink_congr fun l found => ?_⟩
    · simp only [release, Act.bind_apply, Act.network_apply, if_neg last]
      rfl
    · have shared : l.shares ≠ 1 := sharesOf l found ▸ last
      exact (if_neg fun both => shared both.1).symm

end Connection

namespace LdapDirContext

variable {κ : Type}

theorem close_network (c : LdapDirContext) (w : World κ) :
    ∃ w', close c w = (.ok (), { c with connection := none }, w') ∧
      w'.network = w.network.along c.connection Link.released := by
  cases held : c.connection with
  | none =>
      refine ⟨w, ?_, rfl⟩
      simp [close, Act.bind_apply, held]
  | some k =>
      obtain ⟨w', released, network⟩ :=
        Connection.release_network k c.url { c with connection := none } w
      refine ⟨w', ?_, network⟩
      simp [close, Act.bind_apply, held, released]

theorem discard_network (c : LdapDirContext) (w : World κ) :
    (c.discard w).network = w.network.along c.connection Link.dropped := by
  unfold discard
  cases c.connection <;> rfl

/-- A context either keeps its connection and fails to reconnect, or opens another one and
then gives up its share of the one it had. -/
theorem reconnect_network (controls : List Control) (c : LdapDirContext) (w : World κ) :
    (∃ failure w', reconnect controls c w = (.error failure, c, w') ∧
      w.network.Grown (SentRequest.Begins c.credentials controls) w'.network none) ∨
    ∃ k n w', reconnect controls c w =
        (.ok (), { c with connectControls := controls, connection := some k }, w') ∧
      w.network.Grown (SentRequest.Begins c.credentials controls) n (some k) ∧
      w'.network = n.along c.connection Link.released := by
  obtain ⟨same, grown⟩ := Connection.open_grows c.url c.config c.credentials controls c w
  simp only [reconnect, Act.bind_apply, Act.self_apply]
  generalize Connection.open c.url c.config c.credentials controls c w = y at same grown ⊢
  obtain ⟨failure | k, c', w₁⟩ := y
  · exact .inl ⟨failure, w₁, by rw [← same], grown⟩
  · refine .inr ?_
    obtain rfl : c' = c := same
    cases held : c'.connection with
    | none => exact ⟨k, w₁.network, w₁, rfl, grown, rfl⟩
    | some previous =>
        obtain ⟨w', released, network⟩ := Connection.release_network previous c'.url
          { c' with connectControls := controls, connection := some k } w₁
        refine ⟨k, w₁.network, w', ?_, grown, network⟩
        simp [released]

theorem perform_reconnect (controls : List Control) (c : LdapDirContext) (w : World κ) :
    perform (.reconnect controls) c w =
      ((reconnect controls c w).1.map fun _ => .done, (reconnect controls c w).2) := by
  simp only [perform, Act.bind_apply]
  obtain ⟨_ | _, _, _⟩ := reconnect controls c w <;> rfl

/-- Opening a context. -/
theorem openAt_network {σ : Type} (url base : String) (config : LdapConfig)
    (credentials : Credentials) (env : Environment) (controls : List Control) (s : σ)
    (w : World κ) :
    (∃ failure w', openAt url base config credentials env controls s w = (.error failure, s, w') ∧
      w.network.Grown (SentRequest.Begins credentials controls) w'.network none) ∨
    ∃ c k w', openAt url base config credentials env controls s w = (.ok c, s, w') ∧
      c.connection = some k ∧
      w.network.Grown (SentRequest.Begins credentials controls) w'.network (some k) := by
  obtain ⟨same, grown⟩ := Connection.open_grows url config credentials controls s w
  simp only [openAt, Act.bind_apply]
  generalize Connection.open url config credentials controls s w = y at same grown ⊢
  obtain ⟨failure | k, s', w₁⟩ := y
  · exact .inl ⟨failure, w₁, by rw [← same], grown⟩
  · obtain rfl : s' = s := same
    exact .inr ⟨_, k, w₁, rfl, rfl, grown⟩

end LdapDirContext

end ManagedLdap
