/-
# ManagedLdap.Proofs.Ldap.Confined -- what a call can tell of the network

A context that is neither closed nor reconnected, and a cursor in any case, learns nothing of the
network but what its own connection tells it, and not even how many others hold that one.
`Network.seen` is what can be told of a connection, and `Act.Confined` says of a call that two
networks which look the same on its line give the same outcome, leave the same object and still
look the same.  So whatever happens to other connections, and whoever comes to share this one or
leaves it, calls go on as they would have (`perform_sees`, `hasMore_sees`, `next_sees`).
-/
import ManagedLdap.Proofs.Ldap.Calls

namespace ManagedLdap

set_option autoImplicit false

open Act (Talks)

/-! ## What can be told of a connection -/

/-- A connection, whoever holds it. -/
def Link.unshared (l : Link) : Link := { l with shares := 0 }

namespace Network

/-- What can be told of the connection of a line. -/
def seen (n : Network) (line : Option LinkId) : Option Link :=
  line.bind fun k => (n.link? k).map Link.unshared

variable {n n' : Network} {k : LinkId} {line : Option LinkId}

/-- Connections that look the same differ in nothing but how many hold them. -/
theorem link?_seen (same : n.seen (some k) = n'.seen (some k)) :
    ∃ count, n'.link? k = (n.link? k).map fun l => { l with shares := count } := by
  have looks : (n.link? k).map Link.unshared = (n'.link? k).map Link.unshared := same
  cases there : n'.link? k with
  | none =>
      rw [there] at looks
      exact ⟨0, by rw [Option.map_eq_none_iff.1 looks]; rfl⟩
  | some l' =>
      rw [there] at looks
      obtain ⟨l, here, alike⟩ := Option.map_eq_some_iff.1 looks
      refine ⟨l'.shares, ?_⟩
      rw [here]
      exact congrArg (fun l => some { l with shares := l'.shares }) alike.symm

theorem isOpen_seen (same : n.seen (some k) = n'.seen (some k)) : n.isOpen k = n'.isOpen k := by
  obtain ⟨count, other⟩ := link?_seen same
  rw [isOpen, isOpen, other]
  cases n.link? k <;> rfl

theorem nextReply_seen (same : n.seen (some k) = n'.seen (some k)) :
    n.nextReply k = n'.nextReply k := by
  obtain ⟨count, other⟩ := link?_seen same
  rw [nextReply, nextReply, other]
  cases n.link? k <;> rfl

theorem sentCount_seen (same : n.seen (some k) = n'.seen (some k)) :
    n.sentCount k = n'.sentCount k := by
  obtain ⟨count, other⟩ := link?_seen same
  rw [sentCount, sentCount, other]
  cases n.link? k <;> rfl

theorem reader_seen (same : n.seen (some k) = n'.seen (some k)) : n.reader k = n'.reader k := by
  obtain ⟨count, other⟩ := link?_seen same
  rw [reader, reader, other]
  cases n.link? k <;> rfl

theorem repliesLeft_seen (same : n.seen (some k) = n'.seen (some k)) :
    n.repliesLeft k = n'.repliesLeft k := by
  obtain ⟨count, other⟩ := link?_seen same
  rw [repliesLeft, repliesLeft, other]
  cases n.link? k <;> rfl

theorem backlog_seen (same : n.seen (some k) = n'.seen (some k)) : n.backlog k = n'.backlog k := by
  obtain ⟨count, other⟩ := link?_seen same
  rw [backlog, backlog, other]
  cases n.link? k <;> rfl

/-- A change that does not depend on the holders of a connection keeps what looks the same. -/
theorem modifyLink_seen {f : Link → Link} (blind : ∀ l, (f l.unshared).unshared = (f l).unshared)
    (same : n.seen line = n'.seen line) :
    (n.modifyLink k f).seen line = (n'.modifyLink k f).seen line := by
  cases line with
  | none => rfl
  | some j =>
      have looks : (n.link? j).map Link.unshared = (n'.link? j).map Link.unshared := same
      change ((n.modifyLink k f).link? j).map _ = ((n'.modifyLink k f).link? j).map _
      simp only [link?_modifyLink]
      split
      · have through : ∀ found : Option Link, (found.map f).map Link.unshared =
            (found.map Link.unshared).map fun l => (f l).unshared := by
          intro found
          cases found with
          | none => rfl
          | some l => exact congrArg some (blind l).symm
        rw [through, looks, ← through]
      · exact looks

/-- Another number of holders looks the same. -/
theorem seen_modifyLink {f : Link → Link} (blind : ∀ l, (f l).unshared = l.unshared) :
    (n.modifyLink k f).seen line = n.seen line := by
  cases line with
  | none => rfl
  | some j =>
      change ((n.modifyLink k f).link? j).map _ = (n.link? j).map _
      rw [link?_modifyLink]
      split
      · rw [Option.map_map]
        exact congrArg (fun g => (n.link? j).map g) (funext blind)
      · rfl

theorem seen_along {f : Link → Link} (blind : ∀ l, (f l).unshared = l.unshared)
    (other : Option LinkId) : (n.along other f).seen line = n.seen line := by
  cases other with
  | none => rfl
  | some k => exact seen_modifyLink blind

end Network

/-! ## Confined calls -/

namespace Act

variable {κ σ τ α β : Type}

/-- A call that learns nothing of the network but what can be told of its line. -/
def Confined (line : Option LinkId) (I : σ → Prop) (x : Act κ σ α) : Prop :=
  ∀ s w w', I s → w.network.seen line = w'.network.seen line →
    (x s w).1 = (x s w').1 ∧ (x s w).2.1 = (x s w').2.1 ∧
      (x s w).2.2.network.seen line = (x s w').2.2.network.seen line

namespace Confined

variable {line : Option LinkId} {P : SentRequest → Prop} {I : σ → Prop} {Q : α → Prop}

theorem ret (a : α) : Confined line I (pure a : Act κ σ α) := fun _ _ _ _ same => ⟨rfl, rfl, same⟩

theorem failWith (f : Failure) : Confined line I (Act.failWith f : Act κ σ α) :=
  fun _ _ _ _ same => ⟨rfl, rfl, same⟩

theorem fail (e : DirError) : Confined line I (Act.fail e : Act κ σ α) := failWith (.error e)

theorem update (f : σ → σ) : Confined line I (Act.update f : Act κ σ Unit) :=
  fun _ _ _ _ same => ⟨rfl, rfl, same⟩

/-- What comes after a call finds what the call keeps true. -/
theorem bind {x : Act κ σ α} {f : α → Act κ σ β} (first : Confined line I x)
    (keeps : Talks line P I Q x) (second : ∀ a, Q a → Confined line I (f a)) :
    Confined line I (x >>= f) := by
  intro s w w' kept same
  obtain ⟨value, object, looks⟩ := first s w w' kept same
  obtain ⟨kept', -, met⟩ := keeps s w kept
  simp only [bind_apply]
  generalize x s w = y at value object looks kept' met
  generalize x s w' = y' at value object looks
  obtain ⟨r, t, v⟩ := y
  obtain ⟨r', t', v'⟩ := y'
  obtain rfl : r = r' := value
  obtain rfl : t = t' := object
  cases r with
  | error failure => exact ⟨rfl, rfl, looks⟩
  | ok a => exact second a (met a rfl) t v v' kept' looks

theorem map {x : Act κ σ α} (f : α → β) (confined : Confined line I x) :
    Confined line I (f <$> x) := by
  intro s w w' kept same
  obtain ⟨value, object, looks⟩ := confined s w w' kept same
  simp only [map_apply]
  exact ⟨congrArg (Except.map f) value, object, looks⟩

/-- Going on with the object, of which `I` is known. -/
theorem withSelf {f : σ → Act κ σ β} (next : ∀ s, I s → Confined line I (f s)) :
    Confined line I (Act.self >>= f) :=
  fun s w w' kept same => next s kept s w w' kept same

/-- Going on after a change of the object that keeps `I`. -/
theorem changing {f : σ → σ} {x : Act κ σ β} (keeps : ∀ s, I s → I (f s))
    (next : Confined line I x) : Confined line I (Act.update f >>= fun _ => x) :=
  fun s w w' kept same => next (f s) w w' (keeps s kept) same

/-- Going on with a look at the network. -/
theorem withNetwork {f : Network → Act κ σ β}
    (next : ∀ n n', n.seen line = n'.seen line → f n = f n')
    (confined : ∀ n, Confined line I (f n)) : Confined line I (Act.network >>= f) := by
  intro s w w' kept same
  have looks := confined w.network s w w' kept same
  simp only [bind_apply, network_apply]
  rwa [← next w.network w'.network same]

theorem modify (k : LinkId) {f : Link → Link}
    (blind : ∀ l : Link, (f l.unshared).unshared = (f l).unshared) :
    Confined line I (Act.updateNetwork fun n => n.modifyLink k f : Act κ σ Unit) :=
  fun _ _ _ _ same => ⟨rfl, rfl, Network.modifyLink_seen blind same⟩

theorem outcome {x : Act κ σ α} (confined : Confined line I x) :
    Confined line I (Act.outcome x) := by
  intro s w w' kept same
  obtain ⟨value, object, looks⟩ := confined s w w' kept same
  exact ⟨congrArg Except.ok value, object, looks⟩

end Confined

end Act

open Act (Confined)

/-! ## Requests of the client -/

namespace Client

variable {κ σ : Type} {I : σ → Prop} {k : LinkId}

theorem updateExchange_confined (r : SentRequest) (closes : ServerReply → Bool) :
    Confined (some k) I (Act.updateWorld fun w => w.exchange k r closes : Act κ σ Unit) := by
  intro s w w' _ same
  refine ⟨rfl, rfl, ?_⟩
  simp only [Act.updateWorld_apply, World.exchange_network, Network.nextReply_seen same,
    Network.send, Network.takeReply, Network.modifyLink_modifyLink]
  exact Network.modifyLink_seen (fun _ => rfl) same

theorem exchange_confined (patience : Option Nat) (controls : List Control) (r : Request) :
    Confined (some k) I (exchange k patience controls r : Act κ σ _) := by
  refine Confined.withNetwork (fun n n' same => ?_) fun n => ?_
  · simp only [Network.isOpen_seen same, Network.nextReply_seen same]
  · split
    · exact Confined.bind (updateExchange_confined _ _)
        (Talks.exchange (P := fun _ => True) trivial _) fun _ _ => .ret _
    · exact .ret _

theorem requestPage_confined {s : Search} (here : s.link = k) (cookie : Octets) :
    Confined (some k) I (requestPage s cookie : Act κ σ _) := by
  subst here
  refine Confined.withNetwork (fun n n' same => ?_) fun n => ?_
  · simp only [Network.isOpen_seen same, Network.nextReply_seen same, Network.sentCount_seen same]
  · split
    · exact Confined.bind (updateExchange_confined _ _)
        (Talks.exchange (P := fun _ => True) trivial _) fun _ _ => .ret _
    · exact .ret _

theorem startSearch_confined (patience : Option Nat) (controls : List Control)
    (size : Option Int) (spec : SearchSpec) :
    Confined (some k) I (startSearch k patience controls size spec : Act κ σ _) := by
  unfold startSearch
  split
  · exact .ret _
  · split
    · exact .ret _
    · refine Confined.withNetwork (fun n n' same => ?_) fun n => ?_
      · rw [Network.sentCount_seen same, Network.reader_seen same]
      · exact requestPage_confined (by rfl) _

theorem searchAll_confined (patience : Option Nat) (controls : List Control)
    (spec : SearchSpec) : Confined (some k) I (searchAll k patience controls spec : Act κ σ _) := by
  refine Confined.bind (startSearch_confined patience controls none spec)
    (startSearch_talks (P := fun _ => True) fun _ => trivial) fun started _ => ?_
  cases started with
  | error e => exact .ret _
  | ok stream =>
      dsimp only
      split
      · exact .ret _
      · exact .ret _

theorem orFail_confined {α : Type} {line : Option LinkId} {P : SentRequest → Prop} {Q : _ → Prop}
    {x : Act κ σ (Except ClientError α)} (confined : Confined line I x)
    (keeps : Talks line P I Q x) : Confined line I (orFail x) := by
  refine confined.bind keeps fun r _ => ?_
  cases r with
  | ok a => exact .ret a
  | error e => exact .fail _

end Client

/-! ## Cursors -/

namespace SearchCursor

variable {κ : Type} {k : LinkId} {controls : List Control}

/-- A call of a cursor that sees nothing but its connection. -/
abbrev Sees (k : LinkId) (controls : List Control) {α : Type} (x : Act κ SearchCursor α) : Prop :=
  Confined (some k) (Over k controls) x

theorem finish_sees (result : LdapResult) : Sees k controls (finish result : Act κ _ _) := by
  refine Confined.withSelf fun c _ => Confined.changing (fun c lies => lies.ended _) ?_
  split
  · exact .ret _
  · exact .fail _

theorem breakOff_sees (e : ClientError) : Sees k controls (breakOff e : Act κ _ _) :=
  Confined.changing (fun c lies => lies.ended c.references) (.fail _)

theorem fetchPage_sees {onward : Act κ SearchCursor (Option SearchResult)}
    (sees : Sees k controls onward) : Sees k controls (fetchPage onward) := by
  refine Confined.withSelf fun c lies => ?_
  split
  · exact .ret _
  · next stream running =>
      obtain ⟨link, same⟩ := lies.stream stream running
      refine Confined.changing (fun c lies => lies.keepReferences _) ?_
      split
      · refine Confined.changing (fun c lies => ⟨lies.link, ?_⟩) (.ret _)
        intro s still
        obtain rfl := Option.some.inj still
        exact ⟨link, same⟩
      · split
        · exact breakOff_sees _
        · split
          · exact finish_sees _
          · exact .failWith _
          · next cookie _ =>
              have asks : Confined (some k) (Over k controls)
                  (Client.nextPage stream cookie : Act κ _ _) :=
                Client.requestPage_confined link cookie
              have keeps : Talks (some k) (fun _ => True) (Over k controls) _
                  (Client.nextPage stream cookie : Act κ _ _) :=
                link ▸ Client.requestPage_talks trivial
              refine asks.bind keeps fun r stays => ?_
              cases r with
              | error e => exact breakOff_sees e
              | ok next =>
                  refine Confined.changing (fun c lies => ⟨lies.link, ?_⟩) sees
                  intro s still
                  obtain rfl := Option.some.inj still
                  rw [stays next rfl]
                  exact ⟨link, same⟩

theorem fetchWithin_sees (pages : Nat) : Sees k controls (fetchWithin pages : Act κ _ _) := by
  induction pages with
  | zero => exact fetchPage_sees (finish_sees {})
  | succ pages ih => exact fetchPage_sees ih

theorem fetch_sees : Sees k controls (fetch : Act κ _ _) := by
  refine Confined.withSelf fun c lies => Confined.withNetwork (fun n n' same => ?_) fun n =>
    fetchWithin_sees _
  rw [lies.link, Network.repliesLeft_seen same]

theorem hasMore_sees : Sees k controls (hasMore : Act κ _ _) := by
  refine Confined.withSelf fun c _ => ?_
  split
  · exact .ret _
  · refine fetch_sees.bind fetch_reads fun _ _ => ?_
    exact Confined.changing (fun c lies => ⟨lies.link, lies.stream⟩) (.ret _)

theorem next_sees : Sees k controls (next : Act κ _ _) := by
  refine Confined.withSelf fun c _ => ?_
  split
  · exact Confined.changing (fun c lies => ⟨lies.link, lies.stream⟩) (.ret _)
  · exact fetch_sees

theorem remaining_seen {c : SearchCursor} {w w' : World κ}
    (same : w.network.seen (some c.link) = w'.network.seen (some c.link)) :
    c.remaining w = c.remaining w' := by
  simp only [remaining, Network.backlog_seen same]

theorem collectUpTo_sees (n : Nat) :
    Confined (some k) (Cursor.IsBare (Over k controls))
      (Cursor.collectUpTo n : Act κ (Cursor SearchCursor) _) := by
  have pulls : Confined (some k) (Cursor.IsBare (Over k controls))
      (Cursor.next : Act κ (Cursor SearchCursor) _) := by
    rintro c w w' ⟨core, lies, rfl⟩ same
    obtain ⟨value, object, looks⟩ := next_sees core w w' lies same
    exact ⟨value, congrArg Cursor.bare object, looks⟩
  induction n with
  | zero => exact .ret _
  | succ n ih =>
      refine pulls.outcome.bind (Cursor.pull_talks next_reads).outcome fun r _ => ?_
      split
      · exact ih.bind (Cursor.collectUpTo_talks next_reads n) fun _ _ => .ret _
      · exact .ret _
      · exact .ret _

theorem collect_sees :
    Confined (some k) (Cursor.IsBare (Over k controls))
      (Cursor.collect : Act κ (Cursor SearchCursor) _) := by
  rintro c w w' ⟨core, lies, rfl⟩ same
  have bound : core.remaining w = core.remaining w' := remaining_seen (lies.link.symm ▸ same)
  have meant : ∀ v : World κ, Cursor.collect (Cursor.bare core) v =
      Cursor.collectUpTo (core.remaining v + 1) (Cursor.bare core) v := fun _ => rfl
  rw [meant, meant, ← bound]
  exact collectUpTo_sees _ _ w w' ⟨core, lies, rfl⟩ same

end SearchCursor

/-! ## Contexts -/

namespace LdapDirContext

variable {κ : Type} {c₀ : LdapDirContext}

/-- A call of a context that sees nothing but its connection. -/
abbrev Sees (c₀ : LdapDirContext) {α : Type} (x : Act κ LdapDirContext α) : Prop :=
  Confined c₀.connection (Like c₀) x

theorem linkOf_sees (c : LdapDirContext) : Sees c₀ (c.linkOf : Act κ _ _) := by
  unfold linkOf
  split
  · exact .ret _
  · exact .fail _

theorem demand_sees {α : Type} (verdict : Except DirError α) :
    Sees c₀ (demand verdict : Act κ _ _) := by
  cases verdict with
  | ok a => exact .ret a
  | error e => exact .fail e

theorem check_sees (result : LdapResult) (dn : String) : Sees c₀ (check result dn : Act κ _ _) := by
  refine Confined.changing (fun c like => ?_) (Confined.withSelf fun _ _ => .ret _)
  unfold Like
  rw [like]

/-- A request of a context on its own connection, and what comes after the response. -/
theorem asking_sees {α β : Type} {k : LinkId} (held : c₀.connection = some k)
    {x : Act κ LdapDirContext (Except ClientError α)} (confined : Confined (some k) (Like c₀) x)
    (talks : Talks (some k) (fun _ => True) (Like c₀) (fun _ => True) x)
    {next : α → Act κ LdapDirContext β} (sees : ∀ a, Sees c₀ (next a)) :
    Sees c₀ (Client.orFail x >>= next) := by
  rw [← held] at confined talks
  exact (Client.orFail_confined confined talks).bind (Client.orFail_talks_any talks)
    fun a _ => sees a

theorem request_sees (dn : String) (r : Request) : Sees c₀ (request dn r : Act κ _ _) := by
  refine Confined.withSelf fun c like => (linkOf_sees c).bind (linkOf_asks like) fun k held => ?_
  refine asking_sees held (Client.exchange_confined _ _ _) (Client.exchange_talks trivial)
    fun reply => ?_
  exact (check_sees _ _).bind (check_asks _ dn) fun _ _ => .ret _

theorem send_sees (dn : String) {r : Request} (asks : r.asks = true) :
    Sees c₀ (send dn r : Act κ _ _) :=
  (request_sees dn r).bind (request_asks dn asks) fun _ _ => demand_sees _

theorem deleteEntry_sees (dn : String) : Sees c₀ (deleteEntry dn : Act κ _ _) := by
  refine (request_sees dn _).bind (request_asks dn rfl) fun answer _ => ?_
  obtain ⟨reply, verdict⟩ := answer
  dsimp only
  split
  · exact .ret _
  · exact demand_sees _

theorem readEntry_sees (dn : String) (names : List String) :
    Sees c₀ (readEntry dn names : Act κ _ _) := by
  refine Confined.withSelf fun c like => (linkOf_sees c).bind (linkOf_asks like) fun k held => ?_
  refine asking_sees held (Client.searchAll_confined _ _ _)
    (Client.searchAll_talks fun _ => trivial) fun found => ?_
  obtain ⟨messages, result⟩ := found
  refine (check_sees result dn).bind (check_asks result dn) fun verdict _ =>
    (demand_sees verdict).bind (demand_asks verdict) fun _ _ => ?_
  split
  · refine Confined.withNetwork (fun n n' same => ?_) fun n => .ret _
    rw [Network.reader_seen (held ▸ same)]
  · exact .fail _

theorem schemaDn_sees (dn : String) : Sees c₀ (schemaDn dn : Act κ _ _) := by
  refine (readEntry_sees dn _).bind (readEntry_asks dn _) fun entry _ => ?_
  split
  · exact .ret _
  · exact (readEntry_sees "" _).bind (readEntry_asks "" _) fun _ _ => .ret _

theorem bind_sees (name : String) (attrs : Attributes) : Sees c₀ (bind name attrs : Act κ _ _) :=
  Confined.withSelf fun _ _ => send_sees _ rfl

theorem unbind_sees (name : String) : Sees c₀ (unbind name : Act κ _ _) :=
  Confined.withSelf fun _ _ => deleteEntry_sees _

theorem rename_sees (name newName : String) : Sees c₀ (rename name newName : Act κ _ _) :=
  Confined.withSelf fun _ _ => send_sees _ rfl

theorem modify_sees (name : String) (mods : List Modification) :
    Sees c₀ (modify name mods : Act κ _ _) := by
  unfold modify
  split
  · exact .ret _
  · refine Confined.withSelf fun c like => (linkOf_sees c).bind (linkOf_asks like) fun _ _ => ?_
    dsimp only
    split
    · exact .fail _
    · exact send_sees _ rfl

theorem getAttributes_sees (name : String) (ids : Option (List String)) :
    Sees c₀ (getAttributes name ids : Act κ _ _) :=
  Confined.withSelf fun _ _ => (readEntry_sees _ _).bind (readEntry_asks _ _) fun _ _ => .ret _

theorem getSchemaClassDefinition_sees (name : String) :
    Sees c₀ (getSchemaClassDefinition name : Act κ _ _) :=
  Confined.withSelf fun _ _ => (readEntry_sees _ _).bind (readEntry_asks _ _) fun _ _ =>
    (schemaDn_sees _).bind (schemaDn_asks _) fun _ _ =>
      (readEntry_sees _ _).bind (readEntry_asks _ _) fun _ _ => .ret _

theorem extendedOperation_sees (r : ExtendedRequest) :
    Sees c₀ (extendedOperation r : Act κ _ _) :=
  Confined.withSelf fun _ _ => (request_sees _ _).bind (request_asks _ rfl) fun _ _ =>
    (demand_sees _).bind (demand_asks _) fun _ _ => .ret _

/-! ### What shares the connection -/

theorem child_sees (base : String) (controls : List Control) :
    Sees c₀ (child base controls : Act κ _ _) := by
  intro c w w' _ same
  have holds : ∀ v : World κ, (v.holding c.connection).network.seen c₀.connection =
      v.network.seen c₀.connection :=
    fun v => Network.seen_along (f := fun l => { l with shares := l.shares + 1 }) (fun _ => rfl) _
  rw [child_apply, child_apply]
  refine ⟨rfl, rfl, ?_⟩
  dsimp only
  rw [holds, holds, same]

theorem lookup_sees (name : String) : Sees c₀ (lookup name : Act κ _ _) :=
  Confined.withSelf fun _ _ => (readEntry_sees _ _).bind (readEntry_asks _ _) fun _ _ =>
    Confined.withSelf fun _ _ => child_sees _ _

theorem createSubcontext_sees (name : String) (attrs : Attributes) :
    Sees c₀ (createSubcontext name attrs : Act κ _ _) :=
  (bind_sees name attrs).bind (bind_asks name attrs) fun _ _ =>
    Confined.withSelf fun _ _ => child_sees _ _

theorem getSchema_sees (name : String) : Sees c₀ (getSchema name : Act κ _ _) :=
  Confined.withSelf fun _ _ => (schemaDn_sees _).bind (schemaDn_asks _) fun _ _ =>
    Confined.withSelf fun _ _ => child_sees _ _

theorem newInstance_sees (controls : List Control) :
    Sees c₀ (newInstance controls : Act κ _ _) :=
  Confined.withSelf fun c like => (linkOf_sees c).bind (linkOf_asks like) fun _ _ =>
    child_sees _ _

theorem search_sees (name filter : String) (controls : SearchControls) :
    Sees c₀ (search name filter controls : Act κ _ _) := by
  refine Confined.withSelf fun c like => (linkOf_sees c).bind (linkOf_asks like) fun k held => ?_
  refine asking_sees held (Client.startSearch_confined _ _ _ _)
    ((Client.startSearch_talks fun _ => trivial).mono (fun _ => id) fun _ _ => trivial)
    fun stream => ?_
  exact fun _ _ _ _ same => ⟨rfl, rfl, Network.modifyLink_seen (fun _ => rfl) same⟩

theorem searchWithArgs_sees (name expr : String) (args : List String) (controls : SearchControls) :
    Sees c₀ (searchWithArgs name expr args controls : Act κ _ _) := by
  unfold searchWithArgs
  split
  · exact search_sees _ _ _
  · exact .fail _

/-- The cursor of a listing reads over the connection of its context. -/
theorem list_sees (name : String) : Sees c₀ (list name : Act κ _ _) := by
  intro c w w' like same
  obtain ⟨value, object, looks⟩ := search_sees name Filter.matchAll listing c w w' like same
  obtain ⟨-, w₁, -, met⟩ := search_offers name Filter.matchAll listing c w like
  simp only [list, withReturnAttributes_eq_listing, Act.bind_apply]
  generalize search name Filter.matchAll listing c w = y at value object looks met ⊢
  generalize search name Filter.matchAll listing c w' = y' at value object looks ⊢
  obtain ⟨r, c₁, v⟩ := y
  obtain ⟨r', c₁', v'⟩ := y'
  obtain rfl : r = r' := value
  obtain rfl : c₁ = c₁' := object
  cases r with
  | error failure => exact ⟨rfl, rfl, looks⟩
  | ok cursor =>
      obtain ⟨-, fresh, -⟩ := met
      rw [fresh.link] at looks ⊢
      obtain ⟨value, object, looks⟩ := SearchCursor.collect_sees (Cursor.bare cursor) v v'
        ⟨cursor, fresh.keeps.lies, rfl⟩ looks
      simp only [Act.on]
      generalize Cursor.collect (Cursor.bare cursor) v = z at value object looks ⊢
      generalize Cursor.collect (Cursor.bare cursor) v' = z' at value object looks ⊢
      obtain ⟨outcome, left, u⟩ := z
      obtain ⟨outcome', left', u'⟩ := z'
      obtain rfl : outcome = outcome' := value
      obtain rfl : left = left' := object
      have after : (left.discard u).network.seen (some cursor.link) =
          (left.discard u').network.seen (some cursor.link) :=
        Network.modifyLink_seen (fun _ => rfl) looks
      simp only [Act.updateWorld_apply]
      rcases outcome with f | ⟨results, _ | f⟩
      · exact ⟨rfl, rfl, after⟩
      · exact ⟨rfl, rfl, after⟩
      · exact ⟨rfl, rfl, after⟩

/-! ### All operations -/

theorem sees_done {x : Act κ LdapDirContext Unit} (sees : Sees c₀ x) :
    Sees c₀ (do x; return (Reply.done : Reply LdapDirContext SearchCursor)) := by
  rw [bind_pure_comp]
  exact sees.map _

/-- **One line only.**  Whatever a context is asked for, save to reconnect, it learns nothing of
the network but what its connection tells it. -/
theorem perform_sees {op : Op} (stays : op.opensConnection = false) :
    Sees c₀ (perform op : Act κ _ _) := by
  cases op with
  | bind name attrs => exact sees_done (bind_sees name attrs)
  | rebind name attrs =>
      exact sees_done ((unbind_sees name).bind (unbind_asks name) fun _ _ => bind_sees name attrs)
  | unbind name => exact sees_done (unbind_sees name)
  | rename name newName => exact sees_done (rename_sees name newName)
  | modify name mods => exact sees_done (modify_sees name mods)
  | destroySubcontext name => exact sees_done (unbind_sees name)
  | list name => exact (list_sees name).map _
  | getAttributes name ids => exact (getAttributes_sees name ids).map _
  | getSchemaClassDefinition name => exact (getSchemaClassDefinition_sees name).map _
  | extendedOperation r => exact (extendedOperation_sees r).map _
  | lookup name => exact (lookup_sees name).map _
  | createSubcontext name attrs => exact (createSubcontext_sees name attrs).map _
  | getSchema name => exact (getSchema_sees name).map _
  | newInstance controls => exact (newInstance_sees controls).map _
  | search name filter controls => exact (search_sees name filter controls).map _
  | searchWithArgs name expr args controls =>
      exact (searchWithArgs_sees name expr args controls).map _
  | searchByAttributes name matching ids => exact (search_sees _ _ _).map _
  | reconnect controls => cases stays
  | addToEnvironment property value => exact fun _ _ _ _ same => ⟨rfl, rfl, same⟩
  | removeFromEnvironment property => exact fun _ _ _ _ same => ⟨rfl, rfl, same⟩
  | setRequestControls controls => exact fun _ _ _ _ same => ⟨rfl, rfl, same⟩

end LdapDirContext

end ManagedLdap
