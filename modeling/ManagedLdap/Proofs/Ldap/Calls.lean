/-
# ManagedLdap.Proofs.Ldap.Calls -- what each operation of a context and a cursor sends

A cursor only talks over the connection it holds, and so does a context, whatever it is
asked for.  Where an operation hands out a context or a cursor, that holder gets a share of
the same connection (`Act.Hands`).  The one operation that does more is `reconnect`: it
opens another connection and then gives up its share of the present one.

What they send bears their controls (`SentRequest.Bears`): those of the context that is asked, and
for the pages of a search those of its `Terms`, which are settled when it starts.
-/
import ManagedLdap.Proofs.Ldap.Traffic

namespace ManagedLdap

set_option autoImplicit false

open Act (Talks)

/-- Requests that operate on a directory, as opposed to those that begin or end a
connection. -/
def Request.operates : Request → Bool
  | .bind _ _ | .unbind => false
  | _ => true

/-- Any request that operates on a directory. -/
def SentRequest.Operates (r : SentRequest) : Prop := r.request.operates = true

/-- Requests that ask something of a directory: they operate on it, and do not give a search up. -/
def Request.asks : Request → Bool
  | .bind _ _ | .unbind | .abandon _ => false
  | _ => true

/-- A request that asks something of a directory with these controls.  A search, paged as `size`
says, has the control for a page after them. -/
def SentRequest.Bears (controls : List Control) (size : Option Int) (r : SentRequest) : Prop :=
  match r.request with
  | .bind _ _ | .unbind | .abandon _ => False
  | .search _ => ∃ cookie, r.controls = Client.pageControls controls size cookie
  | _ => r.controls = controls

namespace SentRequest

variable {controls : List Control} {size : Option Int} {r : SentRequest}

theorem Bears.operates (bears : r.Bears controls size) : r.Operates := by
  obtain ⟨request, sent⟩ := r
  cases request with
  | bind dn password => cases bears
  | unbind => cases bears
  | _ => rfl

theorem Bears.plain {request : Request} (asks : request.asks = true) :
    Bears controls none ⟨request, controls⟩ := by
  cases request with
  | search request => exact ⟨[], rfl⟩
  | bind dn password => cases asks
  | unbind => cases asks
  | abandon target => cases asks
  | _ => rfl

end SentRequest

/-! ## Cursors -/

namespace SearchCursor

variable {κ : Type} {k : LinkId} {controls : List Control}

/-- A cursor over a connection; the pages of its search are asked for over the same one. -/
structure Over (k : LinkId) (controls : List Control) (c : SearchCursor) : Prop where
  link : c.link = k
  stream : ∀ s ∈ c.stream, s.link = k ∧ s.controls = controls

/-- A new cursor is over the connection of its stream. -/
theorem Over.new (s : Client.SearchStream) (base : String) (origin : ReferralOrigin) :
    Over s.link s.controls (.new s.link s base origin) := by
  refine ⟨rfl, fun s' running => ?_⟩
  obtain rfl := Option.some.inj running
  exact ⟨rfl, rfl⟩

theorem Over.keepReferences {c : SearchCursor} (lies : Over k controls c) (urls : List String) :
    Over k controls (c.keepReferences urls) := by
  unfold SearchCursor.keepReferences
  split
  · exact ⟨lies.link, lies.stream⟩
  · exact lies

/-- A cursor whose stream is gone is over any controls. -/
theorem Over.ended {c : SearchCursor} (lies : Over k controls c) (references : List String) :
    Over k controls { c with stream := none, references := references } :=
  ⟨lies.link, fun _ gone => by cases gone⟩

/-- What is settled when a search starts. -/
structure Terms where
  /-- The connection that all its pages come over. -/
  link : LinkId
  /-- The controls of its requests apart from paging. -/
  controls : List Control
  pageSize : Option Int
  /-- What its referrals are followed with. -/
  origin : ReferralOrigin

/-- A cursor that keeps to the terms of its search. -/
structure Keeps (t : Terms) (c : SearchCursor) : Prop where
  link : c.link = t.link
  origin : c.origin = t.origin
  stream : ∀ s ∈ c.stream, s.link = t.link ∧ s.controls = t.controls ∧ s.pageSize = t.pageSize

namespace Keeps

variable {t : Terms} {c : SearchCursor}

theorem lies (keeps : Keeps t c) : Over t.link t.controls c :=
  ⟨keeps.link, fun s running => ⟨(keeps.stream s running).1, (keeps.stream s running).2.1⟩⟩

theorem keepReferences (keeps : Keeps t c) (urls : List String) :
    Keeps t (c.keepReferences urls) := by
  unfold SearchCursor.keepReferences
  split
  · exact ⟨keeps.link, keeps.origin, keeps.stream⟩
  · exact keeps

theorem ended (keeps : Keeps t c) (peeked : Option SearchResult) (references : List String) :
    Keeps t { c with stream := none, peeked := peeked, references := references } :=
  ⟨keeps.link, keeps.origin, fun _ gone => by cases gone⟩

theorem running (keeps : Keeps t c) {s : Client.SearchStream}
    (kept : s.link = t.link ∧ s.controls = t.controls ∧ s.pageSize = t.pageSize) :
    Keeps t { c with stream := some s } := by
  refine ⟨keeps.link, keeps.origin, fun s' still => ?_⟩
  obtain rfl := Option.some.inj still
  exact kept

end Keeps

/-- A cursor over a connection keeps to some terms. -/
theorem Over.terms {c : SearchCursor} (lies : Over k controls c) :
    ∃ t : Terms, t.link = k ∧ t.controls = controls ∧ Keeps t c := by
  cases running : c.stream with
  | none =>
      refine ⟨⟨k, controls, none, c.origin⟩, rfl, rfl, lies.link, rfl, ?_⟩
      rw [running]
      exact fun _ gone => by cases gone
  | some s =>
      obtain ⟨link, same⟩ := lies.stream s running
      refine ⟨⟨k, controls, s.pageSize, c.origin⟩, rfl, rfl, lies.link, rfl, ?_⟩
      rw [running]
      intro s' still
      obtain rfl := Option.some.inj still
      exact ⟨link, same, rfl⟩

/-- A call of a cursor that does nothing but ask for pages of its search, on its terms. -/
abbrev Pages (t : Terms) {α : Type} (x : Act κ SearchCursor α) : Prop :=
  Talks (some t.link) (SentRequest.Bears t.controls t.pageSize) (Keeps t) (fun _ => True) x

theorem finish_pages (t : Terms) (result : LdapResult) : Pages t (finish result : Act κ _ _) := by
  refine Talks.self.bind fun c _ => ?_
  refine (Talks.update fun c keeps => keeps.ended c.peeked _).bind fun _ _ => ?_
  split
  · exact .ret trivial
  · exact .fail _

theorem breakOff_pages (t : Terms) (e : ClientError) : Pages t (breakOff e : Act κ _ _) :=
  (Talks.update fun c keeps => keeps.ended c.peeked c.references).bind fun _ _ => .fail _

theorem fetchPage_pages {t : Terms} {onward : Act κ SearchCursor (Option SearchResult)}
    (pages : Pages t onward) : Pages t (fetchPage onward) := by
  refine Talks.self.bind fun c keeps => ?_
  split
  · exact .ret trivial
  · next stream running =>
      have kept := keeps.stream stream running
      refine (Talks.update fun c keeps => keeps.keepReferences _).bind fun _ _ => ?_
      split
      · refine (Talks.update fun c keeps => ?_).bind fun _ _ => .ret trivial
        exact keeps.running (s := { stream with messages := _ }) kept
      · split
        · exact breakOff_pages t _
        · split
          · exact finish_pages t _
          · exact .failWith _
          · next cookie _ =>
              obtain ⟨link, same, paged⟩ := kept
              have bears : SentRequest.Bears t.controls t.pageSize (stream.page cookie) :=
                ⟨cookie, by rw [Client.Search.page, same, paged]⟩
              have asks : Talks (some t.link) (SentRequest.Bears t.controls t.pageSize) (Keeps t)
                  _ (Client.nextPage stream cookie : Act κ _ _) :=
                link ▸ Client.requestPage_talks bears
              refine asks.bind fun r stays => ?_
              cases r with
              | error e => exact breakOff_pages t e
              | ok next =>
                  have goesOn := stays next rfl
                  refine (Talks.update fun c keeps => keeps.running ?_).bind fun _ _ => pages
                  rw [goesOn]
                  exact ⟨link, same, paged⟩

theorem fetchWithin_pages (t : Terms) (pages : Nat) : Pages t (fetchWithin pages : Act κ _ _) := by
  induction pages with
  | zero => exact fetchPage_pages (finish_pages t {})
  | succ pages ih => exact fetchPage_pages ih

theorem fetch_pages (t : Terms) : Pages t (fetch : Act κ _ _) :=
  Talks.self.bind fun _ _ => .network fun _ => fetchWithin_pages t _

theorem hasMore_pages (t : Terms) : Pages t (hasMore : Act κ _ _) := by
  refine Talks.self.bind fun c _ => ?_
  split
  · exact .ret trivial
  · refine (fetch_pages t).bind fun _ _ => ?_
    exact (Talks.update fun c keeps => ⟨keeps.link, keeps.origin, keeps.stream⟩).bind fun _ _ =>
      .ret trivial

theorem next_pages (t : Terms) : Pages t (next : Act κ _ _) := by
  refine Talks.self.bind fun c _ => ?_
  split
  · exact (Talks.update fun c keeps => ⟨keeps.link, keeps.origin, keeps.stream⟩).bind fun _ _ =>
      .ret trivial
  · exact fetch_pages t

/-- Closing sends at most an abandon request, which has no controls. -/
theorem close_abandons (t : Terms) {P : SentRequest → Prop} (met : ∀ n, P ⟨.abandon n, []⟩) :
    Talks (some t.link) P (Keeps t) (fun _ => True) (close : Act κ _ _) := by
  refine Talks.self.bind fun c keeps => ?_
  refine (Talks.update fun c keeps => keeps.ended none c.references).bind fun _ _ => ?_
  split
  · exact .ret trivial
  · next stream _ =>
    rw [keeps.link]
    refine (Client.post_talks (met stream.latest)).bind fun r _ => ?_
    cases r with
    | ok _ => exact .ret trivial
    | error e => exact .warn _

/-- A call of a cursor that operates on the directory over its connection, whatever the terms. -/
abbrev Reads (k : LinkId) (controls : List Control) {α : Type} (x : Act κ SearchCursor α) : Prop :=
  Talks (some k) SentRequest.Operates (Over k controls) (fun _ => True) x

theorem Reads.of_terms {α : Type} {x : Act κ SearchCursor α}
    (talks : ∀ t : Terms, Talks (some t.link) SentRequest.Operates (Keeps t) (fun _ => True) x) :
    Reads k controls x := by
  intro c w lies
  obtain ⟨t, rfl, rfl, keeps⟩ := lies.terms
  obtain ⟨keeps', talked⟩ := talks t c w keeps
  exact ⟨keeps'.lies, talked⟩

theorem Reads.of_pages {α : Type} {x : Act κ SearchCursor α} (pages : ∀ t, Pages t x) :
    Reads k controls x :=
  .of_terms fun t => (pages t).mono (fun _ => SentRequest.Bears.operates) fun _ => id

theorem fetch_reads : Reads k controls (fetch : Act κ _ _) := .of_pages fetch_pages

theorem hasMore_reads : Reads k controls (hasMore : Act κ _ _) := .of_pages hasMore_pages

theorem next_reads : Reads k controls (next : Act κ _ _) := .of_pages next_pages

theorem close_reads : Reads k controls (close : Act κ _ _) :=
  .of_terms fun t => close_abandons t fun _ => rfl

end SearchCursor

namespace Cursor

variable {κ α β : Type} {γ : Type} {line : Option LinkId} {P : SentRequest → Prop} {I : γ → Prop}

/-- A bare cursor of a kind. -/
def IsBare (I : γ → Prop) (c : Cursor γ) : Prop := ∃ core, I core ∧ c = .bare core

theorem pull_talks {x : Act κ γ β} {Q : β → Prop} (talks : Talks line P I Q x) :
    Talks line P (IsBare I) Q (pull x) := by
  rintro c w ⟨core, kept, rfl⟩
  obtain ⟨kept', talked, met⟩ := talks core w kept
  exact ⟨⟨_, kept', rfl⟩, talked, met⟩

theorem collectUpTo_talks [Source γ α] (talks : Talks line P I (fun _ => True)
    (Source.next : Act κ γ (Option α))) (n : Nat) :
    Talks line P (IsBare I) (fun _ => True) (collectUpTo n : Act κ (Cursor γ) _) := by
  induction n with
  | zero => exact .ret trivial
  | succ n ih =>
      refine (pull_talks talks).outcome.bind fun r _ => ?_
      split
      · exact ih.bind fun _ _ => .ret trivial
      · exact .ret trivial
      · exact .ret trivial

theorem collect_talks [Source γ α] (talks : Talks line P I (fun _ => True)
    (Source.next : Act κ γ (Option α))) :
    Talks line P (IsBare I) (fun _ => True) (collect : Act κ (Cursor γ) _) :=
  fun c w kept => collectUpTo_talks talks _ c w kept

end Cursor

/-! ## Handing out -/

namespace World

variable {κ : Type}

/-- The world with one more holder of a line. -/
def holding (w : World κ) (line : Option LinkId) : World κ :=
  { w with network := w.network.along line fun l => { l with shares := l.shares + 1 } }

/-- A share that is given back after some traffic was only lent. -/
theorem Talked.loan {k : LinkId} {P : SentRequest → Prop} {w w' : World κ}
    (talked : Talked (some k) P (w.holding (some k)) w') :
    Talked (some k) P w (Connection.letGo k w') := by
  obtain ⟨⟨f, meet, during⟩, others⟩ := talked
  refine ⟨⟨fun l => { f { l with shares := l.shares + 1 } with
    shares := (f { l with shares := l.shares + 1 }).shares - 1 }, fun l => ?_, ?_⟩, ?_⟩
  · have same := meet { l with shares := l.shares + 1 }
    refine ⟨same.address, ?_, same.opened, same.sent⟩
    change (f { l with shares := l.shares + 1 }).shares - 1 = l.shares
    rw [same.shares]
    exact Nat.add_sub_cancel l.shares 1
  · change w'.network.letGo k = _
    rw [during]
    simp only [World.holding, Network.along, Option.elim, Network.letGo,
      Network.modifyLink_modifyLink]
    rfl
  · rw [← others]
    rfl

end World

namespace Act

variable {κ σ α β : Type}

/-- How a call ends after its traffic led to `w₁`: it fails, or it returns something that holds
nothing or the line, and then has a share of it. -/
def Ends (line : Option LinkId) (held : α → Option LinkId) (Q : α → Prop) (w₁ : World κ) :
    Except Failure α → World κ → Prop
  | .ok a, w => (held a = none ∨ held a = line) ∧ Q a ∧ w = w₁.holding (held a)
  | .error _, w => w = w₁

/-- A call that only talks over its line, but may hand out something that holds the line;
`held` says what its value holds. -/
def Hands (line : Option LinkId) (P : SentRequest → Prop) (I : σ → Prop) (held : α → Option LinkId)
    (Q : α → Prop) (x : Act κ σ α) : Prop :=
  ∀ s w, I s → I (x s w).2.1 ∧
    ∃ w₁, World.Talked line P w w₁ ∧ Ends line held Q w₁ (x s w).1 (x s w).2.2

variable {line : Option LinkId} {P : SentRequest → Prop} {I : σ → Prop} {Q : α → Prop}
  {Q' : β → Prop}

/-- What only talks hands out nothing. -/
theorem Talks.hands {x : Act κ σ α} {Q₂ : α → Prop} {held : α → Option LinkId}
    (talks : Talks line P I Q x) (nothing : ∀ a, Q a → held a = none) (weaker : ∀ a, Q a → Q₂ a) :
    Hands line P I held Q₂ x := by
  intro s w kept
  obtain ⟨kept', talked, met⟩ := talks s w kept
  refine ⟨kept', _, talked, ?_⟩
  generalize x s w = y at met ⊢
  obtain ⟨_ | a, s', w'⟩ := y
  · rfl
  · have value := met a rfl
    exact ⟨.inl (nothing a value), weaker a value, nothing a value ▸ rfl⟩

theorem Hands.mono {x : Act κ σ α} {Q₂ : α → Prop} {held : α → Option LinkId}
    (hands : Hands line P I held Q x) (weaker : ∀ a, Q a → Q₂ a) : Hands line P I held Q₂ x := by
  intro s w kept
  obtain ⟨kept', w₁, talked, met⟩ := hands s w kept
  refine ⟨kept', w₁, talked, ?_⟩
  generalize x s w = y at met ⊢
  obtain ⟨_ | a, s', w'⟩ := y
  · exact met
  · exact ⟨met.1, weaker a met.2.1, met.2.2⟩

theorem Hands.fail {held : α → Option LinkId} (e : DirError) :
    Hands line P I held Q (Act.fail e : Act κ σ α) :=
  fun _ w kept => ⟨kept, w, .refl line P w, rfl⟩

theorem Talks.bindHands {x : Act κ σ α} {f : α → Act κ σ β} {held : β → Option LinkId}
    (first : Talks line P I Q x) (second : ∀ a, Q a → Hands line P I held Q' (f a)) :
    Hands line P I held Q' (x >>= f) := by
  intro s w kept
  obtain ⟨kept', talked, met⟩ := first s w kept
  rw [bind_apply]
  generalize x s w = y at kept' talked met
  obtain ⟨_ | a, s', w'⟩ := y
  · exact ⟨kept', w', talked, rfl⟩
  · obtain ⟨kept'', w₁, talked', met'⟩ := second a (met a rfl) s' w' kept'
    exact ⟨kept'', w₁, talked.trans talked', met'⟩

theorem Hands.map {x : Act κ σ α} {held : β → Option LinkId} (f : α → β)
    (hands : Hands line P I (fun a => held (f a)) (fun a => Q' (f a)) x) :
    Hands line P I held Q' (f <$> x) := by
  intro s w kept
  obtain ⟨kept', w₁, talked, met⟩ := hands s w kept
  rw [map_apply]
  generalize x s w = y at kept' talked met
  obtain ⟨_ | a, s', w'⟩ := y
  · exact ⟨kept', w₁, talked, met⟩
  · exact ⟨kept', w₁, talked, met⟩

end Act

/-! ## Contexts -/

namespace LdapDirContext

variable {κ : Type} {c₀ : LdapDirContext}

open Act (Hands)

/-- `c` is `c₀` apart from the controls of the last response. -/
def Like (c₀ c : LdapDirContext) : Prop := c = { c₀ with responseControls := c.responseControls }

theorem Like.connection {c : LdapDirContext} (like : Like c₀ c) : c.connection = c₀.connection := by
  rw [like]

theorem Like.requestControls {c : LdapDirContext} (like : Like c₀ c) :
    c.requestControls = c₀.requestControls := by
  rw [like]

theorem Like.patience {c : LdapDirContext} (like : Like c₀ c) : c.patience = c₀.patience := by
  rw [like]
  rfl

theorem Like.base {c : LdapDirContext} (like : Like c₀ c) : c.base = c₀.base := by rw [like]

theorem Like.resolve {c : LdapDirContext} (like : Like c₀ c) (name : String) :
    c.resolve name = c₀.resolve name := by
  rw [LdapDirContext.resolve, LdapDirContext.resolve, like.base]

theorem Like.origin {c : LdapDirContext} (like : Like c₀ c) : c.origin = c₀.origin := by
  rw [like]
  rfl

/-- The paging of a search: its size, if it is paged. -/
def paging (c : LdapDirContext) (controls : SearchControls) : Option Int :=
  if c.pageSize controls > 0 then some (c.pageSize controls) else none

/-- What a listing asks its search for. -/
def listing : SearchControls :=
  (SearchControls.ofScope .oneLevel).withReturnAttributes ["objectClass"]

theorem withReturnAttributes_eq_listing :
    (SearchControls.ofScope .oneLevel).withReturnAttributes ["objectClass"] = listing := rfl

/-- How an operation is paged: only searches are, and listings, which are made of one. -/
def pagingOf (c : LdapDirContext) : Op → Option Int
  | .list _ => c.paging listing
  | .search _ _ controls | .searchWithArgs _ _ _ controls => c.paging controls
  | .searchByAttributes _ _ ids => c.paging (SearchControls.forAttributes ids)
  | _ => none

/-- A call of a context that does nothing but send requests with its controls, none of them
paged. -/
abbrev Asks (c₀ : LdapDirContext) {α : Type} (x : Act κ LdapDirContext α) : Prop :=
  Talks c₀.connection (SentRequest.Bears c₀.requestControls none) (Like c₀) (fun _ => True) x

/-- A call of a context that may also page searches, and hand out what shares its connection. -/
abbrev Offers (c₀ : LdapDirContext) (size : Option Int) {α : Type} (held : α → Option LinkId)
    (Q : α → Prop) (x : Act κ LdapDirContext α) : Prop :=
  Hands c₀.connection (SentRequest.Bears c₀.requestControls size) (Like c₀) held Q x

theorem linkOf_held {c : LdapDirContext} (like : Like c₀ c) {P : SentRequest → Prop} :
    Talks c₀.connection P (Like c₀) (fun k => c₀.connection = some k) (c.linkOf : Act κ _ _) := by
  unfold linkOf
  split
  · next k held => exact .ret (like.connection.symm.trans held)
  · exact .fail _

theorem demand_asks {α : Type} (verdict : Except DirError α) :
    Asks c₀ (demand verdict : Act κ _ _) := by
  cases verdict with
  | ok a => exact .ret trivial
  | error e => exact .fail e

theorem check_asks (result : LdapResult) (dn : String) : Asks c₀ (check result dn : Act κ _ _) := by
  refine (Talks.update fun c like => ?_).bind fun _ _ => Talks.self.bind fun _ _ => .ret trivial
  unfold Like
  rw [like]

/-- The connection of a context, on the way to a request over it. -/
theorem linkOf_asks {c : LdapDirContext} (like : Like c₀ c) :
    Talks c₀.connection (SentRequest.Bears c₀.requestControls none) (Like c₀)
      (fun k => c₀.connection = some k) (c.linkOf : Act κ _ _) :=
  linkOf_held like

theorem request_asks (dn : String) {r : Request} (asks : r.asks = true) :
    Asks c₀ (request dn r : Act κ _ _) := by
  refine Talks.self.bind fun c like => (linkOf_asks like).bind fun k held => ?_
  rw [like.requestControls]
  have sends : Asks c₀ (Client.exchange k c.patience c₀.requestControls r : Act κ _ _) := by
    unfold Asks
    rw [held]
    exact Client.exchange_talks (.plain asks)
  exact (Client.orFail_talks_any sends).bind fun _ _ =>
    (check_asks _ dn).bind fun _ _ => .ret trivial

theorem send_asks (dn : String) {r : Request} (asks : r.asks = true) :
    Asks c₀ (send dn r : Act κ _ _) :=
  (request_asks dn asks).bind fun _ _ => demand_asks _

theorem deleteEntry_asks (dn : String) : Asks c₀ (deleteEntry dn : Act κ _ _) := by
  refine (request_asks dn rfl).bind fun answer _ => ?_
  obtain ⟨reply, verdict⟩ := answer
  dsimp only
  split
  · exact .ret trivial
  · exact demand_asks _

theorem readEntry_asks (dn : String) (names : List String) :
    Asks c₀ (readEntry dn names : Act κ _ _) := by
  refine Talks.self.bind fun c like => (linkOf_asks like).bind fun k held => ?_
  rw [like.requestControls]
  have sends : Asks c₀ (Client.searchAll k c.patience c₀.requestControls
      { base := dn, scope := .object, filter := Filter.matchAll, attributes := names }
      : Act κ _ _) := by
    unfold Asks
    rw [held]
    exact Client.searchAll_talks fun _ => .plain rfl
  refine (Client.orFail_talks_any sends).bind fun found _ => ?_
  obtain ⟨messages, result⟩ := found
  refine (check_asks result dn).bind fun verdict _ => (demand_asks verdict).bind fun _ _ => ?_
  split
  · exact .network fun n => .ret trivial
  · exact .fail _

theorem schemaDn_asks (dn : String) : Asks c₀ (schemaDn dn : Act κ _ _) := by
  refine (readEntry_asks dn _).bind fun entry _ => ?_
  split
  · exact .ret trivial
  · exact (readEntry_asks "" _).bind fun _ _ => .ret trivial

theorem bind_asks (name : String) (attrs : Attributes) : Asks c₀ (bind name attrs : Act κ _ _) :=
  Talks.self.bind fun _ _ => send_asks _ rfl

theorem unbind_asks (name : String) : Asks c₀ (unbind name : Act κ _ _) :=
  Talks.self.bind fun _ _ => deleteEntry_asks _

theorem rename_asks (name newName : String) : Asks c₀ (rename name newName : Act κ _ _) :=
  Talks.self.bind fun _ _ => send_asks _ rfl

theorem modify_asks (name : String) (mods : List Modification) :
    Asks c₀ (modify name mods : Act κ _ _) := by
  unfold modify
  split
  · exact .ret trivial
  · refine Talks.self.bind fun c like => (linkOf_asks like).bind fun k _ => ?_
    dsimp only
    split
    · exact .fail _
    · exact send_asks _ rfl

theorem getAttributes_asks (name : String) (ids : Option (List String)) :
    Asks c₀ (getAttributes name ids : Act κ _ _) :=
  Talks.self.bind fun _ _ => (readEntry_asks _ _).bind fun _ _ => .ret trivial

theorem getSchemaClassDefinition_asks (name : String) :
    Asks c₀ (getSchemaClassDefinition name : Act κ _ _) :=
  Talks.self.bind fun _ _ => (readEntry_asks _ _).bind fun _ _ =>
    (schemaDn_asks _).bind fun _ _ => (readEntry_asks _ _).bind fun _ _ => .ret trivial

theorem extendedOperation_asks (r : ExtendedRequest) :
    Asks c₀ (extendedOperation r : Act κ _ _) :=
  Talks.self.bind fun _ _ => (request_asks _ rfl).bind fun _ _ =>
    (demand_asks _).bind fun _ _ => .ret trivial

/-! ### What shares the connection -/

/-- A child of `c₀`: its connection, identity, properties and connect controls. -/
def IsChild (c₀ : LdapDirContext) (requestControls : List Control) (child : LdapDirContext) :
    Prop :=
  ∃ base, child =
    { c₀ with base := base, requestControls := requestControls, responseControls := [] }

theorem child_apply (base : String) (requestControls : List Control) (c : LdapDirContext)
    (w : World κ) :
    child base requestControls c w =
      (.ok { c with base := base, requestControls := requestControls, responseControls := [] }, c,
        w.holding c.connection) := by
  obtain ⟨held, _⟩ := c
  cases held <;> rfl

theorem child_offers (base : String) (requestControls : List Control) :
    Offers c₀ none connection (IsChild c₀ requestControls)
      (child base requestControls : Act κ _ _) := by
  intro c w like
  rw [child_apply]
  refine ⟨like, w, .refl _ _ w, .inr like.connection, ⟨base, ?_⟩, rfl⟩
  rw [like]

theorem lookup_offers (name : String) :
    Offers c₀ none connection (IsChild c₀ c₀.requestControls) (lookup name : Act κ _ _) := by
  refine Talks.self.bindHands fun _ _ => (readEntry_asks _ _).bindHands fun _ _ =>
    Talks.self.bindHands fun c like => ?_
  rw [like.requestControls]
  exact child_offers _ _

theorem createSubcontext_offers (name : String) (attrs : Attributes) :
    Offers c₀ none connection (IsChild c₀ c₀.requestControls)
      (createSubcontext name attrs : Act κ _ _) := by
  refine (bind_asks name attrs).bindHands fun _ _ => Talks.self.bindHands fun c like => ?_
  rw [like.requestControls]
  exact child_offers _ _

theorem getSchema_offers (name : String) :
    Offers c₀ none connection (IsChild c₀ c₀.requestControls) (getSchema name : Act κ _ _) := by
  refine Talks.self.bindHands fun _ _ => (schemaDn_asks _).bindHands fun _ _ =>
    Talks.self.bindHands fun c like => ?_
  rw [like.requestControls]
  exact child_offers _ _

theorem newInstance_offers (controls : List Control) :
    Offers c₀ none connection (IsChild c₀ controls) (newInstance controls : Act κ _ _) :=
  Talks.self.bindHands fun _ like => (linkOf_asks like).bindHands fun _ _ => child_offers _ _

/-- The terms of a search that a context starts. -/
def terms (c : LdapDirContext) (k : LinkId) (size : Option Int) : SearchCursor.Terms :=
  ⟨k, c.requestControls, size, c.origin⟩

/-- A cursor that was not pulled from yet, over the connection of `c₀` and on its terms. -/
structure IsFresh (c₀ : LdapDirContext) (size : Option Int) (cursor : SearchCursor) : Prop where
  link : c₀.connection = some cursor.link
  keeps : cursor.Keeps (c₀.terms cursor.link size)
  peeked : cursor.peeked = none
  references : cursor.references = []

theorem search_offers (name filter : String) (controls : SearchControls) :
    Offers c₀ (c₀.paging controls) (fun cursor => some cursor.link)
      (IsFresh c₀ (c₀.paging controls)) (search name filter controls : Act κ _ _) := by
  refine Talks.self.bindHands fun c like => (linkOf_held like).bindHands fun k held => ?_
  have size : (if c.pageSize controls > 0 then some (c.pageSize controls) else none) =
      c₀.paging controls := by
    rw [like]
    rfl
  dsimp only
  rw [like.requestControls, like.origin, size]
  have starts : ∀ spec, Talks c₀.connection
      (SentRequest.Bears c₀.requestControls (c₀.paging controls)) (Like c₀)
      (fun s => ∃ request,
        s.Serves k c.patience c₀.requestControls (c₀.paging controls) request)
      (Client.orFail (Client.startSearch k c.patience c₀.requestControls (c₀.paging controls) spec)
        : Act κ _ _) := by
    intro spec
    rw [held]
    refine Client.orFail_talks ((Client.startSearch_talks fun _ => ⟨[], rfl⟩).mono
      (fun _ => id) fun r serves s same => ?_)
    obtain ⟨tree, stays⟩ := serves s same
    exact ⟨_, stays⟩
  refine (starts _).bindHands fun stream ⟨request, serves⟩ => ?_
  intro c' w like'
  refine ⟨like', w, .refl _ _ w, .inr held.symm, ⟨held, ⟨rfl, rfl, fun s same => ?_⟩, rfl, rfl⟩,
    rfl⟩
  obtain rfl := Option.some.inj same
  exact ⟨serves.link, serves.controls, serves.pageSize⟩

theorem searchWithArgs_offers (name expr : String) (args : List String)
    (controls : SearchControls) :
    Offers c₀ (c₀.paging controls) (fun cursor => some cursor.link)
      (IsFresh c₀ (c₀.paging controls))
      (searchWithArgs name expr args controls : Act κ _ _) := by
  unfold searchWithArgs
  split
  · exact search_offers _ _ _
  · exact .fail _

/-- The cursor of a listing is gone when the listing is there. -/
theorem list_talks (name : String) :
    Talks c₀.connection (SentRequest.Bears c₀.requestControls (c₀.paging listing)) (Like c₀)
      (fun _ => True) (list name : Act κ _ _) := by
  intro c w like
  obtain ⟨like', w₁, talked, met⟩ := search_offers name Filter.matchAll listing c w like
  simp only [list, withReturnAttributes_eq_listing, Act.bind_apply]
  generalize search name Filter.matchAll listing c w = y at like' met ⊢
  obtain ⟨_ | cursor, c', w'⟩ := y
  · dsimp only at met
    subst met
    exact ⟨like', talked, fun _ failed => by cases failed⟩
  · obtain ⟨-, fresh, rfl⟩ := met
    obtain ⟨⟨core, keeps, same⟩, during, -⟩ := Cursor.collect_talks
      (SearchCursor.next_pages (c₀.terms cursor.link (c₀.paging listing)))
      (Cursor.bare cursor) (w₁.holding (some cursor.link)) ⟨cursor, fresh.keeps, rfl⟩
    simp only [Act.on]
    generalize Cursor.collect (Cursor.bare cursor) (w₁.holding (some cursor.link)) = z
      at same during ⊢
    obtain ⟨outcome, left, w₂⟩ := z
    obtain rfl : left = Cursor.bare core := same
    have back : (Cursor.bare core).discard w₂ = Connection.letGo cursor.link w₂ := by
      change Connection.letGo core.link w₂ = _
      rw [keeps.link]
      rfl
    have lent := during.loan
    have own : c₀.connection = some (c₀.terms cursor.link (c₀.paging listing)).link := fresh.link
    rw [← own] at lent
    simp only [Act.updateWorld_apply, back]
    rcases outcome with f | ⟨results, _ | f⟩
    · exact ⟨like', talked.trans lent, fun _ _ => trivial⟩
    · exact ⟨like', talked.trans lent, fun _ _ => trivial⟩
    · exact ⟨like', talked.trans lent, fun _ _ => trivial⟩

/-! ### All operations -/

/-- What a reply holds. -/
def held : Reply LdapDirContext SearchCursor → Option LinkId
  | .context c => c.connection
  | .entries cursor => some cursor.link
  | _ => none

/-- The request controls of a context that an operation hands out: those it is given, or else
those of the context that is asked. -/
def givenControls (c : LdapDirContext) : Op → List Control
  | .newInstance controls => controls
  | _ => c.requestControls

/-- What is handed out is a child of `c₀` or a cursor that was not pulled from. -/
def Handed (c₀ : LdapDirContext) (op : Op) : Reply LdapDirContext SearchCursor → Prop
  | .context child => IsChild c₀ (c₀.givenControls op) child
  | .entries cursor => IsFresh c₀ (c₀.pagingOf op) cursor
  | _ => True

/-- Operations on the properties and controls of a context, which send nothing. -/
def isLocal : Op → Bool
  | .addToEnvironment _ _ | .removeFromEnvironment _ | .setRequestControls _ => true
  | _ => false

theorem perform_local {op : Op} (stays : isLocal op = true) (c : LdapDirContext) (w : World κ) :
    ∃ reply c', perform op c w = (.ok reply, c', w) ∧ held reply = none ∧ Handed c op reply ∧
      c'.connection = c.connection := by
  cases op with
  | addToEnvironment property value => exact ⟨_, _, rfl, rfl, trivial, rfl⟩
  | removeFromEnvironment property => exact ⟨_, _, rfl, rfl, trivial, rfl⟩
  | setRequestControls controls => exact ⟨_, _, rfl, rfl, trivial, rfl⟩
  | _ => cases stays

/-- A reply that holds nothing, made from the value of a call that only talks. -/
theorem talks_offers {α : Type} {x : Act κ LdapDirContext α} {op : Op} {size : Option Int}
    (talks : Talks c₀.connection (SentRequest.Bears c₀.requestControls size) (Like c₀)
      (fun _ => True) x)
    {reply : α → Reply LdapDirContext SearchCursor} (nothing : ∀ a, held (reply a) = none)
    (plain : ∀ a, Handed c₀ op (reply a)) : Offers c₀ size held (Handed c₀ op) (reply <$> x) := by
  have maps : Talks c₀.connection (SentRequest.Bears c₀.requestControls size) (Like c₀)
      (fun r => held r = none ∧ Handed c₀ op r) (reply <$> x) :=
    Talks.map reply (talks.mono (fun _ => id) fun a _ => ⟨nothing a, plain a⟩)
  exact maps.hands (fun _ => And.left) fun _ => And.right

theorem Asks.offersDone {x : Act κ LdapDirContext Unit} {op : Op} (asks : Asks c₀ x) :
    Offers c₀ none held (Handed c₀ op) (do x; return .done) := by
  rw [bind_pure_comp]
  exact talks_offers asks (fun _ => rfl) fun _ => trivial

theorem offersContext {x : Act κ LdapDirContext LdapDirContext} {op : Op}
    (offers : Offers c₀ none connection (IsChild c₀ (c₀.givenControls op)) x) :
    Offers c₀ none held (Handed c₀ op) (.context <$> x) :=
  Hands.map _ offers

/-- Every operation that neither opens a connection nor only concerns its context sends its
requests over the connection of the context, with its controls. -/
theorem perform_offers {op : Op} (stays : op.opensConnection = false) (asks : isLocal op = false) :
    Offers c₀ (c₀.pagingOf op) held (Handed c₀ op) (perform op : Act κ _ _) := by
  cases op with
  | bind name attrs => exact (bind_asks name attrs).offersDone
  | rebind name attrs =>
      have both : Asks c₀ (rebind name attrs : Act κ _ _) :=
        (unbind_asks name).bind fun _ _ => bind_asks name attrs
      exact both.offersDone
  | unbind name => exact (unbind_asks name).offersDone
  | rename name newName => exact (rename_asks name newName).offersDone
  | modify name mods => exact (modify_asks name mods).offersDone
  | destroySubcontext name => exact (unbind_asks name).offersDone
  | list name => exact talks_offers (list_talks name) (fun _ => rfl) fun _ => trivial
  | getAttributes name ids =>
      exact talks_offers (getAttributes_asks name ids) (fun _ => rfl) fun _ => trivial
  | getSchemaClassDefinition name =>
      exact talks_offers (getSchemaClassDefinition_asks name) (fun _ => rfl) fun _ => trivial
  | extendedOperation r =>
      exact talks_offers (extendedOperation_asks r) (fun _ => rfl) fun _ => trivial
  | lookup name => exact offersContext (lookup_offers name)
  | createSubcontext name attrs => exact offersContext (createSubcontext_offers name attrs)
  | getSchema name => exact offersContext (getSchema_offers name)
  | newInstance controls => exact offersContext (newInstance_offers controls)
  | search name filter controls => exact Hands.map _ (search_offers name filter controls)
  | searchWithArgs name expr args controls =>
      exact Hands.map _ (searchWithArgs_offers name expr args controls)
  | searchByAttributes name matching ids => exact Hands.map _ (search_offers _ _ _)
  | reconnect controls => cases stays
  | addToEnvironment property value => cases asks
  | removeFromEnvironment property => cases asks
  | setRequestControls controls => cases asks

/-- **One line.**  Whatever a context is asked for, save to reconnect: it stays on its
connection, sends its requests over that one and with its controls, and gives a share of it to
what it hands out. -/
theorem perform_shares {op : Op} (stays : op.opensConnection = false) (c : LdapDirContext)
    (w : World κ) :
    let x := perform op c w
    x.2.1.connection = c.connection ∧
      ∃ w₁, World.Talked c.connection (SentRequest.Bears c.requestControls (c.pagingOf op)) w w₁ ∧
        Act.Ends c.connection held (Handed c op) w₁ x.1 x.2.2 := by
  cases asks : isLocal op with
  | true =>
      obtain ⟨reply, c', performed, nothing, plain, same⟩ := perform_local asks c w
      simp only [performed]
      exact ⟨same, w, .refl _ _ w, .inl nothing, plain, nothing ▸ rfl⟩
  | false =>
      have offers : Offers c _ held (Handed c op) (perform op : Act κ _ _) :=
        perform_offers stays asks
      obtain ⟨like, talks⟩ := offers c w rfl
      exact ⟨like.connection, talks⟩

end LdapDirContext

end ManagedLdap
