/-
# ManagedLdap.Proofs.Ldap.Traffic -- which connection a call talks over, and what it says

Most calls on a context or a cursor send requests over one connection and do nothing else
to the network.  `Network.Talked line P n n'` says so of two networks: only the connection
`line` changed, if there is one, and it changed only by requests that meet `P`.
`Act.Talks` says it of a call, together with what the call keeps true of its object and
what it returns; it is closed under everything calls are put together from, so each
operation needs a few lines.

Two kinds of calls do more, and only these.  What hands out a context or a cursor gives it
a share of the connection (`lookup`, `createSubcontext`, `getSchema`, `newInstance`,
`search`), and what opens a connection makes a new one (`Network.Opened`).
-/
import ManagedLdap.Ldap.Backend

namespace ManagedLdap

set_option autoImplicit false

/-! ## Connections -/

/-- `l'` is `l` after requests that meet `P`, and after what the server did meanwhile. -/
structure Link.Talked (P : SentRequest → Prop) (l l' : Link) : Prop where
  address : l'.address = l.address
  shares : l'.shares = l.shares
  opened : l'.isOpen → l.isOpen
  sent : ∃ more, l'.sent = l.sent ++ more ∧ ∀ r ∈ more, P r

namespace Link.Talked

variable {P Q : SentRequest → Prop} {l l' l'' : Link}

theorem refl (P : SentRequest → Prop) (l : Link) : Talked P l l :=
  ⟨rfl, rfl, id, [], (List.append_nil _).symm, fun _ none => by cases none⟩

theorem trans (first : Talked P l l') (second : Talked P l' l'') : Talked P l l'' := by
  obtain ⟨more, sent, meet⟩ := first.sent
  obtain ⟨more', sent', meet'⟩ := second.sent
  refine ⟨second.address.trans first.address, second.shares.trans first.shares,
    fun still => first.opened (second.opened still), more ++ more', ?_, fun r among => ?_⟩
  · rw [sent', sent, List.append_assoc]
  · rcases List.mem_append.1 among with early | late
    · exact meet r early
    · exact meet' r late

theorem mono (weaker : ∀ r, P r → Q r) (talked : Talked P l l') : Talked Q l l' := by
  obtain ⟨more, sent, meet⟩ := talked.sent
  exact ⟨talked.address, talked.shares, talked.opened, more, sent, fun r among =>
    weaker r (meet r among)⟩

end Link.Talked

/-! ## Networks -/

namespace Network

theorem link?_modifyLink (n : Network) (k j : LinkId) (f : Link → Link) :
    (n.modifyLink k f).link? j = if k = j then (n.link? j).map f else n.link? j := by
  unfold modifyLink link?
  rw [List.getElem?_modify]
  split <;> simp [*]

theorem modifyLink_modifyLink (n : Network) (k : LinkId) (f g : Link → Link) :
    (n.modifyLink k f).modifyLink k g = n.modifyLink k (g ∘ f) := by
  simp only [modifyLink, List.modify_modify_eq]

/-- Only what is done with the connection as it stands matters. -/
theorem modifyLink_congr {n : Network} {k : LinkId} {f g : Link → Link}
    (agree : ∀ l, n.link? k = some l → f l = g l) : n.modifyLink k f = n.modifyLink k g := by
  unfold modifyLink
  congr 1
  apply List.ext_getElem?
  intro j
  rw [List.getElem?_modify, List.getElem?_modify]
  split
  · next place =>
      subst place
      cases found : n.links[k]? with
      | none => rfl
      | some l => simp [agree l found]
  · rfl

theorem modifyLink_id (n : Network) (k : LinkId) : n.modifyLink k id = n := by
  simp only [modifyLink, List.modify_id]

/-- Change the connection of a line, if it has one. -/
def along (n : Network) (line : Option LinkId) (f : Link → Link) : Network :=
  line.elim n fun k => n.modifyLink k f

/-- The other connections stay as they are. -/
theorem link?_along {n : Network} {line : Option LinkId} {k : LinkId} (other : line ≠ some k)
    (f : Link → Link) : (n.along line f).link? k = n.link? k := by
  cases line with
  | none => rfl
  | some j => exact (link?_modifyLink ..).trans (if_neg fun same => other (congrArg some same))

/-- `n'` is `n` after requests that meet `P` over one line. -/
def Talked (line : Option LinkId) (P : SentRequest → Prop) (n n' : Network) : Prop :=
  ∃ f, (∀ l, Link.Talked P l (f l)) ∧ n' = n.along line f

namespace Talked

variable {line : Option LinkId} {P Q : SentRequest → Prop} {n n' n'' : Network}

theorem refl (line : Option LinkId) (P : SentRequest → Prop) (n : Network) :
    Talked line P n n := by
  refine ⟨id, Link.Talked.refl P, ?_⟩
  cases line with
  | none => rfl
  | some k => exact (n.modifyLink_id k).symm

theorem trans (first : Talked line P n n') (second : Talked line P n' n'') :
    Talked line P n n'' := by
  obtain ⟨f, meet, rfl⟩ := first
  obtain ⟨g, meet', rfl⟩ := second
  refine ⟨g ∘ f, fun l => (meet l).trans (meet' (f l)), ?_⟩
  cases line with
  | none => rfl
  | some k => exact n.modifyLink_modifyLink k f g

theorem mono (weaker : ∀ r, P r → Q r) (talked : Talked line P n n') : Talked line Q n n' := by
  obtain ⟨f, meet, rfl⟩ := talked
  exact ⟨f, fun l => (meet l).mono weaker, rfl⟩

/-- Without a line nothing happens. -/
theorem silent (talked : Talked none P n n') : n' = n := by
  obtain ⟨f, -, rfl⟩ := talked
  rfl

end Talked

end Network

namespace Network

variable {P : SentRequest → Prop}

/-- A request that is answered, by a reply or by the end of the connection. -/
theorem talked_exchange {k : LinkId} {r : SentRequest} (met : P r) (closes : Bool) (n : Network) :
    Talked (some k) P n ((n.send k r).takeReply k closes) := by
  rw [send, takeReply, modifyLink_modifyLink]
  refine ⟨_, ?_, rfl⟩
  intro l
  refine ⟨rfl, rfl, fun still => (Bool.and_eq_true_iff.1 still).1, [r], rfl, fun r' among => ?_⟩
  rwa [List.mem_singleton.1 among]

/-- A request that has no answer. -/
theorem talked_send {k : LinkId} {r : SentRequest} (met : P r) (n : Network) :
    Talked (some k) P n (n.send k r) := by
  refine ⟨_, ?_, rfl⟩
  intro l
  refine ⟨rfl, rfl, id, [r], rfl, fun r' among => ?_⟩
  rwa [List.mem_singleton.1 among]

end Network

/-! ## Worlds and calls -/

/-- `w'` is `w` after requests that meet `P` over one line, and perhaps some warnings. -/
structure World.Talked {κ : Type} (line : Option LinkId) (P : SentRequest → Prop)
    (w w' : World κ) : Prop where
  network : w.network.Talked line P w'.network
  others : { w with network := w'.network, warnings := w'.warnings } = w'

namespace World.Talked

variable {κ : Type} {line : Option LinkId} {P Q : SentRequest → Prop} {w w' w'' : World κ}

theorem refl (line : Option LinkId) (P : SentRequest → Prop) (w : World κ) : Talked line P w w :=
  ⟨.refl line P w.network, rfl⟩

theorem trans (first : Talked line P w w') (second : Talked line P w' w'') :
    Talked line P w w'' := by
  refine ⟨first.network.trans second.network, ?_⟩
  rw [← second.others, ← first.others]

theorem mono (weaker : ∀ r, P r → Q r) (talked : Talked line P w w') : Talked line Q w w' :=
  ⟨talked.network.mono weaker, talked.others⟩

end World.Talked

namespace Act

variable {κ σ τ α β : Type}

/-- A call that sends nothing but requests that meet `P` over one line, keeps `I` true of
its object, and returns only values that meet `Q`.  It may fail at any point. -/
def Talks (line : Option LinkId) (P : SentRequest → Prop) (I : σ → Prop) (Q : α → Prop)
    (x : Act κ σ α) : Prop :=
  ∀ s w, I s → I (x s w).2.1 ∧ World.Talked line P w (x s w).2.2 ∧ ∀ a, (x s w).1 = .ok a → Q a

namespace Talks

variable {line : Option LinkId} {P : SentRequest → Prop} {I : σ → Prop} {Q : α → Prop}
  {Q' : β → Prop}

theorem ret {a : α} (met : Q a) : Talks line P I Q (pure a : Act κ σ α) :=
  fun _ w kept => ⟨kept, .refl line P w, fun _ same => Except.ok.inj same ▸ met⟩

theorem failWith (f : Failure) : Talks line P I Q (Act.failWith f : Act κ σ α) :=
  fun _ w kept => ⟨kept, .refl line P w, fun _ failed => by cases failed⟩

theorem fail (e : DirError) : Talks line P I Q (Act.fail e : Act κ σ α) := failWith (.error e)

theorem bind {x : Act κ σ α} {f : α → Act κ σ β} (first : Talks line P I Q x)
    (second : ∀ a, Q a → Talks line P I Q' (f a)) : Talks line P I Q' (x >>= f) := by
  intro s w kept
  obtain ⟨kept', talked, met⟩ := first s w kept
  rw [bind_apply]
  generalize x s w = y at kept' talked met
  obtain ⟨_ | a, s', w'⟩ := y
  · exact ⟨kept', talked, fun _ failed => by cases failed⟩
  · obtain ⟨kept'', talked', met'⟩ := second a (met a rfl) s' w' kept'
    exact ⟨kept'', talked.trans talked', met'⟩

theorem map {x : Act κ σ α} (f : α → β) (talks : Talks line P I (fun a => Q' (f a)) x) :
    Talks line P I Q' (f <$> x) := by
  rw [← bind_pure_comp]
  exact talks.bind fun _ met => ret met

theorem self : Talks line P I I (Act.self : Act κ σ σ) :=
  fun _ w kept => ⟨kept, .refl line P w, fun _ same => Except.ok.inj same ▸ kept⟩

theorem update {f : σ → σ} (keeps : ∀ s, I s → I (f s)) :
    Talks line P I (fun _ => True) (Act.update f : Act κ σ Unit) :=
  fun s w kept => ⟨keeps s kept, .refl line P w, fun _ _ => trivial⟩

theorem warn (warning : Warning) :
    Talks line P I (fun _ => True) (Act.warn warning : Act κ σ Unit) :=
  fun _ w kept => ⟨kept, ⟨.refl line P w.network, rfl⟩, fun _ _ => trivial⟩

/-- A request and its answer. -/
theorem exchange {k : LinkId} {r : SentRequest} (met : P r) (closes : ServerReply → Bool) :
    Talks (some k) P I (fun _ => True)
      (Act.updateWorld (fun w => w.exchange k r closes) : Act κ σ Unit) :=
  fun _ w kept => ⟨kept, ⟨w.network.talked_exchange met _, rfl⟩, fun _ _ => trivial⟩

theorem updateNetwork {f : Network → Network} (talked : ∀ n, Network.Talked line P n (f n)) :
    Talks line P I (fun _ => True) (Act.updateNetwork f : Act κ σ Unit) :=
  fun _ w kept => ⟨kept, ⟨talked w.network, rfl⟩, fun _ _ => trivial⟩

/-- Looking at the network is no traffic; what is seen is the network of the moment. -/
theorem network {f : Network → Act κ σ β} (talks : ∀ n, Talks line P I Q' (f n)) :
    Talks line P I Q' (Act.network >>= f) :=
  fun s w kept => talks w.network s w kept

theorem outcome {x : Act κ σ α} (talks : Talks line P I Q x) :
    Talks line P I (fun r => ∀ a, r = .ok a → Q a) (Act.outcome x) := by
  intro s w kept
  obtain ⟨kept', talked, met⟩ := talks s w kept
  exact ⟨kept', talked, fun _ same => Except.ok.inj same ▸ met⟩

theorem mono {P' : SentRequest → Prop} {Q₂ : α → Prop} {x : Act κ σ α}
    (talks : Talks line P I Q x) (weaker : ∀ r, P r → P' r) (weaker' : ∀ a, Q a → Q₂ a) :
    Talks line P' I Q₂ x := by
  intro s w kept
  obtain ⟨kept', talked, met⟩ := talks s w kept
  exact ⟨kept', talked.mono weaker, fun a same => weaker' a (met a same)⟩

end Talks

end Act

/-! ## Requests of the client -/

namespace Client

variable {κ σ : Type} {P : SentRequest → Prop} {I : σ → Prop} {k : LinkId}

open Act (Talks)

theorem exchange_talks {patience : Option Nat} {controls : List Control} {request : Request}
    (met : P ⟨request, controls⟩) :
    Talks (some k) P I (fun _ => True) (exchange k patience controls request : Act κ σ _) := by
  refine Talks.network fun n => ?_
  split
  · exact (Talks.exchange met _).bind fun _ _ => .ret trivial
  · exact .ret trivial

/-- The client reports what goes wrong; the call itself does not fail. -/
theorem exchange_answers (link : LinkId) (patience : Option Nat) (controls : List Control)
    (request : Request) (s : σ) (w : World κ) :
    ∃ r, (exchange link patience controls request s w).1 = .ok r := by
  simp only [exchange, Act.bind_apply, Act.network_apply]
  split <;> exact ⟨_, rfl⟩

theorem post_apply (link : LinkId) (request : Request) (s : σ) (w : World κ) :
    post link request s w =
      if w.network.isOpen link then
        (.ok (.ok ()), s, { w with network := w.network.send link ⟨request, []⟩ })
      else (.ok (.error .sendOnClosed), s, w) := by
  simp only [post, Act.bind_apply, Act.network_apply]
  split <;> rfl

theorem post_talks {request : Request} (met : P ⟨request, []⟩) :
    Talks (some k) P I (fun _ => True) (post k request : Act κ σ _) := by
  refine Talks.network fun n => ?_
  split
  · exact (Talks.updateNetwork fun n => n.talked_send met).bind fun _ _ => .ret trivial
  · exact .ret trivial

theorem orFail_talks {α : Type} {line : Option LinkId} {Q : α → Prop}
    {x : Act κ σ (Except ClientError α)}
    (talks : Talks line P I (fun r => ∀ a, r = .ok a → Q a) x) : Talks line P I Q (orFail x) := by
  refine talks.bind fun r met => ?_
  cases r with
  | ok a => exact .ret (met a rfl)
  | error e => exact .fail _

theorem orFail_talks_any {α : Type} {line : Option LinkId} {x : Act κ σ (Except ClientError α)}
    (talks : Talks line P I (fun _ => True) x) : Talks line P I (fun _ => True) (orFail x) :=
  orFail_talks (talks.mono (fun _ => id) fun _ _ _ _ => trivial)

/-- What stays of a search from page to page. -/
structure Search.Serves (s : Search) (k : LinkId) (patience : Option Nat)
    (controls : List Control) (size : Option Int) (request : SearchRequest) : Prop where
  link : s.link = k
  patience : s.patience = patience
  controls : s.controls = controls
  pageSize : s.pageSize = size
  request : s.request = request

theorem requestPage_talks {s : Search} {cookie : Octets} (met : P (s.page cookie)) :
    Talks (some s.link) P I (fun r => ∀ t : SearchStream, r = .ok t → t.toSearch = s)
      (requestPage s cookie : Act κ σ _) := by
  refine Talks.network fun n => ?_
  split
  · refine (Talks.exchange met _).bind fun _ _ => .ret ?_
    intro t same
    obtain rfl := Except.ok.inj same
    rfl
  · refine .ret ?_
    intro t failed
    cases failed

theorem startSearch_talks {patience : Option Nat} {controls : List Control} {size : Option Int}
    {spec : SearchSpec}
    (met : ∀ tree, P ⟨.search (spec.toRequest tree), pageControls controls size []⟩) :
    Talks (some k) P I
      (fun r => ∀ s : SearchStream, r = .ok s →
        ∃ tree, s.Serves k patience controls size (spec.toRequest tree))
      (startSearch k patience controls size spec : Act κ σ _) := by
  unfold startSearch
  split
  · refine .ret ?_
    intro s failed
    cases failed
  · split
    · refine .ret ?_
      intro s failed
      cases failed
    · next tree _ =>
        refine Talks.network fun n => ?_
        refine (requestPage_talks (met tree)).mono (fun _ => id) fun r serves t same => ?_
        have search := serves t same
        exact ⟨tree, by rw [search], by rw [search], by rw [search], by rw [search], by rw [search]⟩

theorem searchAll_talks {patience : Option Nat} {controls : List Control} {spec : SearchSpec}
    (met : ∀ tree, P ⟨.search (spec.toRequest tree), controls⟩) :
    Talks (some k) P I (fun _ => True) (searchAll k patience controls spec : Act κ σ _) := by
  refine (startSearch_talks met).bind fun r _ => ?_
  cases r with
  | error e => exact .ret trivial
  | ok stream =>
      dsimp only
      split
      · exact .ret trivial
      · exact .ret trivial

end Client

end ManagedLdap
