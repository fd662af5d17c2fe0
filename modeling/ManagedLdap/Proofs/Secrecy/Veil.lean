/-
# ManagedLdap.Proofs.Secrecy.Veil -- other passwords in the same places

A veil puts other passwords into the places of those that are there: into identities, into
configurations, and into whatever carries one of the two along, down to the requests that were
sent.  It says so of every type the program handles (`Veilable`); most types hold no password at
all and are left alone (`Unveiled`).

If the program only ever passes passwords on, it does not matter whether a veil covers what it
starts from or what it ends with.  `Act.Oblivious v I x y` says so of two calls: where `x`
leads from somewhere, `y` leads from under the veil to the same under the veil.  It is closed
under everything calls are put together from, and `y` is mostly `x` again; `I` is what the
objects are known to keep meanwhile.
-/
import ManagedLdap.ContextFactory
import ManagedLdap.Plain

namespace ManagedLdap

set_option autoImplicit false

/-! ## Veils -/

/-- Other passwords for identities and for configurations.  A configuration keeps whether it
has a password, and its faults; and where it has no fault, its identity gets the same password
on either way. -/
structure Veil where
  identity : Credentials → String
  configured : Option String → Option String
  present : ∀ p, (configured p).isSome = p.isSome
  fault : ∀ c : LdapConfig,
    { c with bindPassword := configured c.bindPassword }.fault? = c.fault?
  agrees : ∀ c : LdapConfig, c.fault? = none →
    (configured c.bindPassword).getD "" = identity c.credentials

/-- What a veil can cover. -/
class Veilable (α : Type) where
  cover : Veil → α → α

/-- Cover something with a veil. -/
def Veil.cover {α : Type} [Veilable α] (v : Veil) (a : α) : α := Veilable.cover v a

/-- What holds no password. -/
class Unveiled (α : Type) extends Veilable α where
  cover_eq : ∀ (v : Veil) (a : α), v.cover a = a

/-- A type without places for passwords. -/
@[reducible] def Unveiled.plain {α : Type} : Unveiled α where
  cover _ a := a
  cover_eq _ _ := rfl

instance : Unveiled Unit := .plain
instance : Unveiled Empty := .plain
instance : Unveiled Bool := .plain
instance : Unveiled Nat := .plain
instance : Unveiled Int := .plain
instance : Unveiled String := .plain
instance : Unveiled UInt8 := .plain
instance : Unveiled Control := .plain
instance : Unveiled Attributes := .plain
instance : Unveiled LdapResult := .plain
instance : Unveiled ClientError := .plain
instance : Unveiled ServerReply := .plain
instance : Unveiled RawEntry := .plain
instance : Unveiled SearchMessage := .plain
instance : Unveiled SearchEntry := .plain
instance : Unveiled SearchResult := .plain
instance : Unveiled NameClassPair := .plain
instance : Unveiled ExtendedResponse := .plain
instance : Unveiled Client.SearchStream := .plain
instance : Unveiled Answer := .plain
instance : Unveiled SocketFactory := .plain
instance : Unveiled ConnSettings := .plain
instance : Unveiled ReferralMode := .plain
instance : Unveiled Event := .plain

variable {α β ε ℓ γ κ σ : Type} {v : Veil}

instance [Veilable α] : Veilable (Option α) := ⟨fun v => Option.map v.cover⟩
instance [Veilable α] : Veilable (List α) := ⟨fun v => List.map v.cover⟩
instance [Veilable α] [Veilable β] : Veilable (α × β) := ⟨fun v p => (v.cover p.1, v.cover p.2)⟩
instance [Veilable ε] [Veilable α] : Veilable (Except ε α) where
  cover v
    | .ok a => .ok (v.cover a)
    | .error e => .error (v.cover e)
instance [Veilable α] [Veilable β] : Veilable (α ⊕ β) where
  cover v
    | .inl a => .inl (v.cover a)
    | .inr b => .inr (v.cover b)

theorem cover_snoc [Veilable α] (as : List α) (a : α) :
    v.cover (as ++ [a]) = v.cover as ++ [v.cover a] :=
  List.map_append

theorem cover_drop [Veilable α] (n : Nat) (as : List α) :
    (v.cover as).drop n = v.cover (as.drop n) :=
  List.map_drop.symm

theorem cover_exceptMap [Veilable ε] [Veilable α] [Veilable β] {f g : α → β}
    (same : ∀ a, g (v.cover a) = v.cover (f a)) (r : Except ε α) :
    (v.cover r).map g = v.cover (r.map f) := by
  cases r with
  | ok a => exact congrArg Except.ok (same a)
  | error e => rfl

instance [Unveiled α] : Unveiled (Option α) where
  cover_eq v a := by
    cases a with
    | none => rfl
    | some a => exact congrArg some (Unveiled.cover_eq v a)

instance [Unveiled α] : Unveiled (List α) where
  cover_eq v as := by
    have same : (v.cover : α → α) = id := funext (Unveiled.cover_eq v)
    change as.map v.cover = as
    rw [same, List.map_id]

instance [Unveiled α] [Unveiled β] : Unveiled (α × β) where
  cover_eq v p := Prod.ext (Unveiled.cover_eq v p.1) (Unveiled.cover_eq v p.2)

instance [Unveiled ε] [Unveiled α] : Unveiled (Except ε α) where
  cover_eq v r := by
    cases r with
    | ok a => exact congrArg Except.ok (Unveiled.cover_eq v a)
    | error e => exact congrArg Except.error (Unveiled.cover_eq v e)

/-! ### Maps -/

namespace OrderedMap

/-- A map with other values. -/
def mapValues (f : α → β) (m : OrderedMap α) : OrderedMap β where
  entries := m.entries.map fun e => (e.1, f e.2)
  ordered := List.pairwise_map.2 m.ordered

theorem get?_mapValues (f : α → β) (m : OrderedMap α) (key : String) :
    (m.mapValues f).get? key = (m.get? key).map f := by
  simp only [get?, mapValues, List.find?_map, Function.comp_def, Option.map_map]

theorem put_map (f : α → β) (key : String) (value : α) (entries : List (String × α)) :
    put key (f value) (entries.map fun e => (e.1, f e.2)) =
      (put key value entries).map fun e => (e.1, f e.2) := by
  induction entries with
  | nil => rfl
  | cons e rest ih =>
      simp only [List.map_cons, put, ih]
      split
      · rfl
      · split <;> rfl

theorem ext_entries {m m' : OrderedMap α} (same : m.entries = m'.entries) : m = m' := by
  cases m
  cases m'
  cases same
  rfl

theorem mapValues_insert (f : α → β) (m : OrderedMap α) (key : String) (value : α) :
    (m.insert key value).mapValues f = (m.mapValues f).insert key (f value) :=
  ext_entries (put_map f key value m.entries).symm

theorem mapValues_erase (f : α → β) (m : OrderedMap α) (key : String) :
    (m.erase key).mapValues f = (m.mapValues f).erase key :=
  ext_entries (by simp only [mapValues, erase, List.filter_map, Function.comp_def])

end OrderedMap

instance [Veilable α] : Veilable (OrderedMap α) := ⟨fun v => OrderedMap.mapValues v.cover⟩

instance [Unveiled α] : Unveiled (OrderedMap α) where
  cover_eq v m := OrderedMap.ext_entries (by
    have same : (v.cover : α → α) = id := funext (Unveiled.cover_eq v)
    change m.entries.map (fun e => (e.1, v.cover e.2)) = m.entries
    simp only [same, id_eq, List.map_id'])

/-! ### Identities, errors and requests -/

instance : Veilable Credentials := ⟨fun v c => { c with password := v.identity c }⟩

instance : Veilable LdapConfig where
  cover v c := { c with bindPassword := v.configured c.bindPassword }

instance : Veilable ReferralOrigin where
  cover v o := { o with config := v.cover o.config, credentials := v.cover o.credentials }

instance : Veilable LdapReferral := ⟨fun v r => { r with origin := v.cover r.origin }⟩

instance : Veilable Referral where
  cover v
    | .ldap r => .ldap (v.cover r)
    | .scripted r => .scripted r

instance : Veilable DirError where
  cover v
    | .referral r => .referral (v.cover r)
    | e => e

instance : Veilable Failure where
  cover v
    | .error e => .error (v.cover e)
    | .panic => .panic

instance : Veilable Warning where
  cover v
    | .closingDropped e => .closingDropped (v.cover e)
    | .referralConnection server e => .referralConnection server (v.cover e)
    | warning => warning

instance : Veilable Request where
  cover v
    | .bind dn password => .bind dn (v.identity ⟨dn, password⟩)
    | request => request

instance : Veilable SentRequest := ⟨fun v r => { r with request := v.cover r.request }⟩

instance : Veilable Link := ⟨fun v l => { l with sent := v.cover l.sent }⟩

instance : Veilable Network := ⟨fun v n => { n with links := v.cover n.links }⟩

instance [Veilable κ] : Veilable (World κ) where
  cover v w := { w with
    warnings := v.cover w.warnings
    pool := v.cover w.pool
    network := v.cover w.network }

instance : Veilable LdapDirContext where
  cover v c := { c with config := v.cover c.config, credentials := v.cover c.credentials }

instance : Veilable SearchCursor := ⟨fun v c => { c with origin := v.cover c.origin }⟩

instance [Veilable ℓ] [Veilable γ] : Veilable (Reply ℓ γ) := ⟨fun v => Reply.map v.cover v.cover⟩

theorem World.cover_warn [Veilable κ] (w : World κ) (warning : Warning) :
    (v.cover w).warn (v.cover warning) = v.cover (w.warn warning) :=
  congrArg (fun warnings => { v.cover w with warnings := warnings })
    (cover_snoc w.warnings warning).symm

/-! ## Calls -/

namespace Act

/-- Nothing need be known of an object. -/
abbrev Any : σ → Prop := fun _ => True

/-- Where `x` leads, `y` leads the same way under the veil; `I` holds of the object on the way
out if it held on the way in. -/
def Oblivious [Veilable κ] [Veilable σ] [Veilable α] (v : Veil) (I : σ → Prop) (x y : Act κ σ α) :
    Prop :=
  ∀ s w, I s → I (x s w).2.1 ∧ y (v.cover s) (v.cover w) = v.cover (x s w)

namespace Oblivious

variable [Veilable κ] [Veilable σ] [Veilable α] [Veilable β] {I : σ → Prop}

theorem ret (a : α) : Oblivious v I (pure a : Act κ σ α) (pure (v.cover a)) :=
  fun _ _ kept => ⟨kept, rfl⟩

theorem failWith (f : Failure) :
    Oblivious v I (Act.failWith f : Act κ σ α) (Act.failWith (v.cover f)) :=
  fun _ _ kept => ⟨kept, rfl⟩

theorem fail (e : DirError) : Oblivious v I (Act.fail e : Act κ σ α) (Act.fail (v.cover e)) :=
  failWith (.error e)

theorem bind {x y : Act κ σ α} {f g : α → Act κ σ β} (first : Oblivious v I x y)
    (second : ∀ a, Oblivious v I (f a) (g (v.cover a))) : Oblivious v I (x >>= f) (y >>= g) := by
  intro s w kept
  obtain ⟨kept', same⟩ := first s w kept
  simp only [bind_apply]
  rw [same]
  generalize x s w = z at kept'
  obtain ⟨r, s', w'⟩ := z
  cases r with
  | error e => exact ⟨kept', rfl⟩
  | ok a => exact second a s' w' kept'

theorem map {x y : Act κ σ α} {f g : α → β} (first : Oblivious v I x y)
    (second : ∀ a, g (v.cover a) = v.cover (f a)) : Oblivious v I (f <$> x) (g <$> y) := by
  rw [← bind_pure_comp, ← bind_pure_comp]
  refine first.bind fun a => ?_
  rw [second]
  exact ret (f a)

theorem update {f g : σ → σ} (keeps : ∀ s, I s → I (f s))
    (same : ∀ s, g (v.cover s) = v.cover (f s)) :
    Oblivious v I (Act.update f : Act κ σ Unit) (Act.update g) := by
  intro s w kept
  refine ⟨keeps s kept, ?_⟩
  change (Except.ok (), g (v.cover s), v.cover w) = _
  rw [same]
  rfl

/-- Going on after a change of an object of which nothing need be known. -/
theorem changing {f : σ → σ} {x y : Act κ σ β} (same : ∀ s, f (v.cover s) = v.cover (f s))
    (next : Oblivious v Any x y) :
    Oblivious v Any (Act.update f >>= fun _ => x) (Act.update f >>= fun _ => y) :=
  (update (fun _ _ => trivial) same).bind fun _ => next

theorem updateWorld {f g : World κ → World κ} (same : ∀ w, g (v.cover w) = v.cover (f w)) :
    Oblivious v I (Act.updateWorld f : Act κ σ Unit) (Act.updateWorld g) := by
  intro s w kept
  refine ⟨kept, ?_⟩
  change (Except.ok (), v.cover s, g (v.cover w)) = _
  rw [same]
  rfl

/-- A value that the veil leaves alone. -/
theorem retFixed {a : α} (fixed : v.cover a = a) :
    Oblivious v I (pure a : Act κ σ α) (pure a) := by
  have same := ret (v := v) (I := I) (κ := κ) (σ := σ) a
  rwa [fixed] at same

/-- An error that the veil leaves alone. -/
theorem failFixed {e : DirError} (fixed : v.cover e = e) :
    Oblivious v I (Act.fail e : Act κ σ α) (Act.fail e) := by
  have same := fail (v := v) (I := I) (κ := κ) (σ := σ) (α := α) e
  rwa [fixed] at same

/-- A value that holds no password. -/
theorem retSame {δ : Type} [Unveiled δ] (a : δ) :
    Oblivious v I (pure a : Act κ σ δ) (pure a) :=
  retFixed (Unveiled.cover_eq v a)

/-- Going on with a value that holds no password. -/
theorem bindSame {δ : Type} [Unveiled δ] {x y : Act κ σ δ} {f g : δ → Act κ σ β}
    (first : Oblivious v I x y) (second : ∀ a, Oblivious v I (f a) (g a)) :
    Oblivious v I (x >>= f) (y >>= g) := by
  refine first.bind fun a => ?_
  rw [Unveiled.cover_eq]
  exact second a

/-- Making something of a value that holds no password. -/
theorem mapSame {δ : Type} [Unveiled δ] {x y : Act κ σ δ} {f : δ → β}
    (first : Oblivious v I x y) (fixed : ∀ a, v.cover (f a) = f a) :
    Oblivious v I (f <$> x) (f <$> y) :=
  first.map fun a => by rw [Unveiled.cover_eq, fixed]

/-- Going on with the object, of which `I` is known. -/
theorem withSelf {f g : σ → Act κ σ β} (next : ∀ s, I s → Oblivious v I (f s) (g (v.cover s))) :
    Oblivious v I (Act.self >>= f) (Act.self >>= g) :=
  fun s w kept => next s kept s w kept

theorem withWorld {f g : World κ → Act κ σ β} (next : ∀ w, Oblivious v I (f w) (g (v.cover w))) :
    Oblivious v I (Act.world >>= f) (Act.world >>= g) :=
  fun s w kept => next w s w kept

theorem withNetwork {f g : Network → Act κ σ β} (next : ∀ n, Oblivious v I (f n) (g (v.cover n))) :
    Oblivious v I (Act.network >>= f) (Act.network >>= g) :=
  fun s w kept => next w.network s w kept

theorem updateNetwork {f g : Network → Network} (same : ∀ n, g (v.cover n) = v.cover (f n)) :
    Oblivious v I (Act.updateNetwork f : Act κ σ Unit) (Act.updateNetwork g) :=
  updateWorld fun w => congrArg (fun n => { v.cover w with network := n }) (same w.network)

theorem warn (warning : Warning) :
    Oblivious v I (Act.warn warning : Act κ σ Unit) (Act.warn (v.cover warning)) :=
  updateWorld fun w => World.cover_warn w warning

theorem record (what : Happening) :
    Oblivious v I (Act.record what : Act κ σ Unit) (Act.record what) :=
  updateWorld fun _ => rfl

theorem ofExcept (r : Except Failure α) :
    Oblivious v I (Act.ofExcept r : Act κ σ α) (Act.ofExcept (v.cover r)) := by
  cases r with
  | ok a => exact ret a
  | error f => exact failWith f

theorem outcome {x y : Act κ σ α} (oblivious : Oblivious v I x y) :
    Oblivious v I (Act.outcome x) (Act.outcome y) := by
  intro s w kept
  obtain ⟨kept', same⟩ := oblivious s w kept
  refine ⟨kept', ?_⟩
  simp only [Act.outcome, same]
  rfl

/-- A call of another object. -/
theorem on {τ : Type} [Veilable τ] {J : τ → Prop} {x y : Act κ τ α}
    (oblivious : Oblivious v J x y) {t : τ} (known : J t) :
    Oblivious v I (Act.on t x : Act κ σ _) (Act.on (v.cover t) y) := by
  intro s w kept
  obtain ⟨-, same⟩ := oblivious t w known
  refine ⟨kept, ?_⟩
  simp only [Act.on, same]
  rfl

theorem under (factory : Option SocketFactory) {x y : Act κ σ α} (oblivious : Oblivious v I x y) :
    Oblivious v I (Act.under factory x) (Act.under factory y) := by
  intro s w kept
  obtain ⟨kept', same⟩ := oblivious s { w with slot := factory.or w.slot } kept
  have inside : y (v.cover s) { v.cover w with slot := factory.or (v.cover w).slot } =
      v.cover (x s { w with slot := factory.or w.slot }) := same
  rw [under_eq, under_eq]
  refine ⟨kept', ?_⟩
  simp only [inside]
  rfl

end Oblivious

end Act

/-! ## Networks under a veil -/

namespace Network

@[simp] theorem cover_link? (v : Veil) (n : Network) (k : LinkId) :
    (v.cover n).link? k = (n.link? k).map v.cover :=
  List.getElem?_map ..

@[simp] theorem cover_isOpen (v : Veil) (n : Network) (k : LinkId) :
    (v.cover n).isOpen k = n.isOpen k := by
  simp only [isOpen, cover_link?]
  cases n.link? k <;> rfl

@[simp] theorem cover_sentCount (v : Veil) (n : Network) (k : LinkId) :
    (v.cover n).sentCount k = n.sentCount k := by
  simp only [sentCount, cover_link?]
  cases n.link? k with
  | none => rfl
  | some l => exact List.length_map ..

@[simp] theorem cover_repliesLeft (v : Veil) (n : Network) (k : LinkId) :
    (v.cover n).repliesLeft k = n.repliesLeft k := by
  simp only [repliesLeft, cover_link?]
  cases n.link? k <;> rfl

@[simp] theorem cover_shares (v : Veil) (n : Network) (k : LinkId) :
    (v.cover n).shares k = n.shares k := by
  simp only [shares, cover_link?]
  cases n.link? k <;> rfl

@[simp] theorem cover_nextReply (v : Veil) (n : Network) (k : LinkId) :
    (v.cover n).nextReply k = n.nextReply k := by
  simp only [nextReply, cover_link?]
  cases n.link? k <;> rfl

@[simp] theorem cover_reader (v : Veil) (n : Network) (k : LinkId) :
    (v.cover n).reader k = n.reader k := by
  simp only [reader, cover_link?]
  cases n.link? k <;> rfl

@[simp] theorem cover_backlog (v : Veil) (n : Network) (k : LinkId) :
    (v.cover n).backlog k = n.backlog k := by
  simp only [backlog, cover_link?]
  cases n.link? k <;> rfl

theorem cover_modifyLink (v : Veil) (n : Network) (k : LinkId) {f g : Link → Link}
    (same : ∀ l, g (v.cover l) = v.cover (f l)) :
    (v.cover n).modifyLink k g = v.cover (n.modifyLink k f) := by
  have links : (v.cover n.links).modify k g = v.cover (n.links.modify k f) := by
    apply List.ext_getElem?
    intro j
    change ((n.links.map v.cover).modify k g)[j]? = ((n.links.modify k f).map v.cover)[j]?
    simp only [List.getElem?_modify, List.getElem?_map]
    cases n.links[j]? with
    | none => split <;> rfl
    | some l =>
        split
        · exact congrArg some (same l)
        · rfl
  exact congrArg (fun links => { n with links := links }) links

theorem cover_send (v : Veil) (n : Network) (k : LinkId) (r : SentRequest) :
    (v.cover n).send k (v.cover r) = v.cover (n.send k r) :=
  cover_modifyLink v n k fun l =>
    congrArg (fun sent => { l with sent := sent }) (cover_snoc l.sent r).symm

theorem cover_takeReply (v : Veil) (n : Network) (k : LinkId) (closes : Bool) :
    (v.cover n).takeReply k closes = v.cover (n.takeReply k closes) :=
  cover_modifyLink v n k fun _ => rfl

theorem cover_shut (v : Veil) (n : Network) (k : LinkId) :
    (v.cover n).shut k = v.cover (n.shut k) :=
  cover_modifyLink v n k fun _ => rfl

theorem cover_hold (v : Veil) (n : Network) (k : LinkId) :
    (v.cover n).hold k = v.cover (n.hold k) :=
  cover_modifyLink v n k fun _ => rfl

theorem cover_letGo (v : Veil) (n : Network) (k : LinkId) :
    (v.cover n).letGo k = v.cover (n.letGo k) :=
  cover_modifyLink v n k fun _ => rfl

theorem cover_accept (v : Veil) (n : Network) (address : String) :
    (v.cover n).accept address = v.cover (n.accept address) := by
  have count : (v.cover n).links.length = n.links.length := List.length_map ..
  have listeners : (v.cover n).listeners = n.listeners := rfl
  unfold accept
  rw [listeners]
  cases n.listeners.find? fun l => l.address == address with
  | none => rfl
  | some listener =>
      simp only [count]
      -- a new connection has not been sent anything
      let link : Link :=
        { address := address, script := listener.scripts.headD [], sent := [], isOpen := true,
          shares := 1, library := n.library }
      have more : v.cover (n.links ++ [link]) = v.cover n.links ++ [v.cover link] :=
        cover_snoc n.links link
      exact congrArg (fun links => some (n.links.length, ({
        listeners := n.listeners.map fun l =>
          if l.address = address then { l with scripts := l.scripts.drop 1 } else l
        refusal := n.refusal, links := links, dials := n.dials, silent := n.silent,
        socketFault := n.socketFault, library := n.library } : Network))) more.symm

end Network

/-- What is said of a connection that ends holds nothing to hide. -/
theorem Warning.cover_ofEnd (v : Veil) (reply : ServerReply) :
    v.cover (ofEnd reply) = ofEnd reply := by
  unfold ofEnd
  cases reply.fault <;> rfl

theorem World.cover_exchange [Veilable κ] (v : Veil) (w : World κ) (k : LinkId)
    (r : SentRequest) (closes : ServerReply → Bool) :
    (v.cover w).exchange k (v.cover r) closes = v.cover (w.exchange k r closes) := by
  have reply : (v.cover w).network.nextReply k = w.network.nextReply k :=
    Network.cover_nextReply v w.network k
  have warnings : v.cover w.warnings ++
      (if closes (w.network.nextReply k) then Warning.ofEnd (w.network.nextReply k) else []) =
      v.cover (w.warnings ++
        if closes (w.network.nextReply k) then Warning.ofEnd (w.network.nextReply k) else []) := by
    have said : v.cover (if closes (w.network.nextReply k) then
        Warning.ofEnd (w.network.nextReply k) else []) =
        if closes (w.network.nextReply k) then Warning.ofEnd (w.network.nextReply k) else [] := by
      split
      · exact Warning.cover_ofEnd v _
      · rfl
    exact (congrArg (v.cover w.warnings ++ ·) said.symm).trans List.map_append.symm
  have network : ((v.cover w.network).send k (v.cover r)).takeReply k
      (closes (w.network.nextReply k)) =
      v.cover ((w.network.send k r).takeReply k (closes (w.network.nextReply k))) := by
    rw [Network.cover_send, Network.cover_takeReply]
  simp only [World.exchange, reply]
  exact congr (congrArg (fun warnings network => { v.cover w with warnings, network }) warnings)
    network

end ManagedLdap
