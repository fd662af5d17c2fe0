/-
# ManagedLdap.Proofs.Ldap.Tally -- who ought to use which controls

A `Tally` says which controls the members of a family ought to use, by nothing but what was done
and what came of it; `Tally.record` is the whole of it.  A context starts without controls, or with
those it is given, or with those of the context it came from; from then on they are what was last
set on it.  A search goes on with what its context had when it started, its later pages and its
referrals included.

`Purpose` says what requests are sent for and which controls they bear for it: the request
controls, and the one for paging where a search is paged; the connect controls on a bind; none
where something is given up.  `LdapDirContext.perform_said` and `LdapDirContext.perform_accounted`
are about one operation of a context: what it sends serves its purpose, and it leaves the controls
of everybody as the tally has them.
-/
import ManagedLdap.Proofs.Ldap.Family

namespace ManagedLdap

set_option autoImplicit false

variable {κ : Type}

/-! ## What is said over connections -/

namespace Network

/-- `n'` is `n` after requests that meet `P`, over whatever connections. -/
def Said (P : SentRequest → Prop) (n n' : Network) : Prop :=
  ∀ k, ∃ more, n'.sentOver k = n.sentOver k ++ more ∧ ∀ r ∈ more, P r

variable {P : SentRequest → Prop} {n n' n'' : Network}

theorem Said.refl (n : Network) : Said P n n :=
  fun _ => ⟨[], (List.append_nil _).symm, List.forall_mem_nil _⟩

theorem Said.trans (first : Said P n n') (second : Said P n' n'') : Said P n n'' := by
  intro k
  obtain ⟨more, sent, met⟩ := first k
  obtain ⟨more', sent', met'⟩ := second k
  refine ⟨more ++ more', by rw [sent', sent, List.append_assoc], fun r among => ?_⟩
  exact (List.mem_append.1 among).elim (met r) (met' r)

theorem Said.mono {Q : SentRequest → Prop} (said : Said P n n') (weaker : ∀ r, P r → Q r) :
    Said Q n n' := by
  intro k
  obtain ⟨more, sent, met⟩ := said k
  exact ⟨more, sent, fun r among => weaker r (met r among)⟩

/-- Requests that are appended to what was sent over one line. -/
theorem said_along {f : Link → Link} (line : Option LinkId)
    (appends : ∀ l, ∃ more, (f l).sent = l.sent ++ more ∧ ∀ r ∈ more, P r) (n : Network) :
    Said P n (n.along line f) := by
  cases line with
  | none => exact .refl n
  | some k =>
      intro j
      simp only [along, Option.elim, sentOver, link?_modifyLink]
      by_cases here : k = j
      · subst here
        rw [if_pos rfl]
        cases n.link? k with
        | none => exact ⟨[], rfl, List.forall_mem_nil _⟩
        | some l => exact appends l
      · rw [if_neg here]
        exact ⟨[], (List.append_nil _).symm, List.forall_mem_nil _⟩

/-- Holders come and go without a word. -/
theorem said_shares (line : Option LinkId) (count : Nat → Nat) (n : Network) :
    Said P n (n.along line fun l => { l with shares := count l.shares }) := by
  refine said_along line (fun l => ?_) n
  exact ⟨[], (List.append_nil _).symm, List.forall_mem_nil _⟩

theorem said_released (met : P ⟨.unbind, []⟩) (line : Option LinkId) (n : Network) :
    Said P n (n.along line Link.released) := by
  refine said_along line (fun l => ?_) n
  unfold Link.released
  split
  · exact ⟨_, rfl, List.forall_mem_singleton.2 met⟩
  · exact ⟨[], (List.append_nil _).symm, List.forall_mem_nil _⟩

theorem Talked.said {line : Option LinkId} (talked : Talked line P n n') : Said P n n' := by
  obtain ⟨f, meet, rfl⟩ := talked
  exact said_along line (fun l => (meet l).sent) n

theorem Grown.said {opened : Option LinkId} (grown : Grown P n n' opened) : Said P n n' := by
  obtain ⟨new, links, met, -⟩ := grown
  intro k
  simp only [sentOver, Network.link?, links]
  rcases Nat.lt_or_ge k n.links.length with old | later
  · rw [List.getElem?_append_left old]
    exact ⟨[], (List.append_nil _).symm, List.forall_mem_nil _⟩
  · rw [List.getElem?_append_right later, List.getElem?_eq_none later]
    cases found : new[k - n.links.length]? with
    | none => exact ⟨[], rfl, List.forall_mem_nil _⟩
    | some l => exact ⟨l.sent, rfl, met l (List.mem_of_getElem? found)⟩

end Network

/-! ## The tally -/

/-- The controls that a context holds. -/
structure Holding where
  /-- The controls of its requests. -/
  request : List Control := []
  /-- The controls that its referrals are followed with. -/
  connect : List Control := []

namespace Holding

/-- What a context holds after an operation that succeeded. -/
def after (h : Holding) : Op → Holding
  | .setRequestControls controls => { h with request := controls }
  | .reconnect controls => { h with connect := controls }
  | _ => h

/-- What a context holds that an operation hands out. -/
def given (h : Holding) : Op → Holding
  | .newInstance controls => { h with request := controls }
  | _ => h

end Holding

/-- What came of a dealing: it handed out a context or a search, paged like this, it failed with a
referral, or it was done otherwise or failed otherwise. -/
inductive Upshot where
  | context
  | search (size : Option Int)
  | referral
  | done
  | failed

/-- Who ought to use which controls. -/
structure Tally where
  contexts : List Holding := []
  /-- For every search, what its context held when it started, and how it is paged. -/
  searches : List (Holding × Option Int) := []
  /-- For every referral, the controls that it is followed with. -/
  referrals : List (List Control) := []

namespace Tally

def context (t : Tally) (i : Nat) : Holding := t.contexts[i]?.getD {}

def search (t : Tally) (j : Nat) : Holding × Option Int := t.searches[j]?.getD ({}, none)

def referral (t : Tally) (n : Nat) : List Control := t.referrals[n]?.getD []

/-- The tally after a dealing, by what came of it. -/
def record (t : Tally) : Dealing → Upshot → Tally
  | .connect _ _ _, .context => { t with contexts := t.contexts ++ [{}] }
  | .follow n, .context => { t with contexts := t.contexts ++ [{ connect := t.referral n }] }
  | .move (.perform i op) _, .done =>
      { t with contexts := t.contexts.modify i fun h => h.after op }
  | .move (.perform i op) _, .context =>
      { t with contexts := t.contexts ++ [(t.context i).given op] }
  | .move (.perform i _) _, .search size =>
      { t with searches := t.searches ++ [(t.context i, size)] }
  | .move (.perform i _) _, .referral =>
      { t with referrals := t.referrals ++ [(t.context i).connect] }
  | .move (.hasMore j) _, .referral | .move (.next j) _, .referral =>
      { t with referrals := t.referrals ++ [(t.search j).1.connect] }
  | _, _ => t

end Tally

/-! ## What requests ought to bear -/

/-- What requests are sent for. -/
inductive Purpose where
  /-- To open a connection, with these controls on its bind. -/
  | opening (controls : List Control)
  /-- To ask something of a directory, with these controls, and searches paged like this. -/
  | asking (controls : List Control) (size : Option Int)
  /-- To give something up. -/
  | leaving

namespace Purpose

/-- Whether a request serves a purpose and bears the controls for it.  Besides a bind, opening may
ask for encryption, and when it was done in place of another connection, unbind that one. -/
def Allows : Purpose → SentRequest → Prop
  | .opening controls, r =>
      match r.request with
      | .bind _ _ => r.controls = controls
      | .extended oid value => oid = Client.startTlsOid ∧ value = none ∧ r.controls = []
      | .unbind => r.controls = []
      | _ => False
  | .asking controls size, r => r.Bears controls size
  | .leaving, r =>
      match r.request with
      | .unbind | .abandon _ => r.controls = []
      | _ => False

theorem opening_allows {credentials : Credentials} {controls : List Control} {r : SentRequest}
    (begins : r.Begins credentials controls) : (opening controls).Allows r := by
  rcases begins with rfl | rfl
  · exact ⟨rfl, rfl, rfl⟩
  · rfl

end Purpose

/-- The purpose of an operation of a context. -/
def LdapDirContext.purpose (c : LdapDirContext) : Op → Purpose
  | .reconnect controls => .opening controls
  | op => .asking c.requestControls (c.pagingOf op)

/-- The purpose of a dealing, by the tally; `size` says how an operation is paged. -/
def Tally.purpose (t : Tally) (size : Option Int) : Dealing → Purpose
  | .connect _ _ _ => .opening []
  | .follow n => .opening (t.referral n)
  | .move (.perform _ (.reconnect controls)) _ => .opening controls
  | .move (.perform i _) _ => .asking (t.context i).request size
  | .move (.hasMore j) _ | .move (.next j) _ =>
      .asking (t.search j).1.request (t.search j).2
  | _ => .leaving

/-! ## Operations -/

namespace LdapDirContext

/-- The controls that a context holds. -/
def holding (c : LdapDirContext) : Holding := ⟨c.requestControls, c.connectControls⟩

theorem Like.holding {c₀ c : LdapDirContext} (like : Like c₀ c) : c.holding = c₀.holding := by
  rw [like]
  rfl

theorem IsChild.holding {c child : LdapDirContext} {op : Op}
    (isChild : IsChild c (c.givenControls op) child) : child.holding = c.holding.given op := by
  obtain ⟨base, rfl⟩ := isChild
  cases op <;> rfl

/-- What an operation of `c` comes to, as far as controls go. -/
def Accounted (c : LdapDirContext) (op : Op)
    (outcome : Except Failure (Reply LdapDirContext SearchCursor)) (c' : LdapDirContext) : Prop :=
  match outcome with
  | .ok (.context child) => c'.holding = c.holding ∧ child.holding = c.holding.given op
  | .ok (.entries cursor) => c'.holding = c.holding ∧ IsFresh c (c.pagingOf op) cursor
  | .ok _ => c'.holding = c.holding.after op
  | .error f => c'.holding = c.holding ∧ ∀ r, f.received? = some r → r.origin = c.origin

theorem perform_accounted (op : Op) (c : LdapDirContext) (w : World κ) :
    Accounted c op (perform op c w).1 (perform op c w).2.1 := by
  have received : ∀ f, (perform op c w).1 = .error f →
      ∀ r, f.received? = some r → r.origin = c.origin := fun f failed r => perform_received failed
  cases opens : op.opensConnection with
  | true =>
      cases op with
      | reconnect controls =>
          rw [perform_reconnect] at received ⊢
          rcases c.reconnect_network controls w with ⟨f, w', failed, -⟩ | ⟨k, n, w', moved, -⟩
          · rw [failed] at received ⊢
            exact ⟨rfl, received f rfl⟩
          · rw [moved]
            rfl
      | _ => cases opens
  | false =>
      cases asks : isLocal op with
      | true =>
          cases op with
          | addToEnvironment property value => rfl
          | removeFromEnvironment property => rfl
          | setRequestControls controls => rfl
          | _ => cases asks
      | false =>
          have offers : Offers c _ held (Handed c op) (perform op : Act κ _ _) :=
            perform_offers opens asks
          obtain ⟨like, w₁, -, ends⟩ := offers c w rfl
          have stays : c.holding.after op = c.holding := by
            cases op with
            | reconnect controls => cases opens
            | setRequestControls controls => cases asks
            | _ => rfl
          generalize perform op c w = y at like ends received
          obtain ⟨f | reply, c', w'⟩ := y
          · exact ⟨like.holding, received f rfl⟩
          · obtain ⟨-, handed, -⟩ := ends
            cases reply with
            | context child => exact ⟨like.holding, handed.holding⟩
            | entries cursor => exact ⟨like.holding, handed⟩
            | _ => exact like.holding.trans stays.symm

/-- **What an operation says**: every request it sends serves its purpose. -/
theorem perform_said (op : Op) (c : LdapDirContext) (w : World κ) :
    w.network.Said (c.purpose op).Allows (perform op c w).2.2.network := by
  cases opens : op.opensConnection with
  | true =>
      cases op with
      | reconnect controls =>
          rw [perform_reconnect]
          rcases c.reconnect_network controls w with
            ⟨f, w', failed, grown⟩ | ⟨k, n, w', moved, grown, after⟩
          · rw [failed]
            exact grown.said.mono fun _ => Purpose.opening_allows
          · rw [moved]
            change w.network.Said _ w'.network
            rw [after]
            have unbinds : (Purpose.opening controls).Allows ⟨.unbind, []⟩ := rfl
            exact (grown.said.mono fun _ => Purpose.opening_allows).trans
              (Network.said_released unbinds _ n)
      | _ => cases opens
  | false =>
      obtain ⟨-, w₁, talked, ends⟩ := perform_shares opens c w
      have purpose : c.purpose op = .asking c.requestControls (c.pagingOf op) := by
        cases op with
        | reconnect controls => cases opens
        | _ => rfl
      rw [purpose]
      have said := talked.network.said
      generalize perform op c w = y at ends
      obtain ⟨f | reply, c', w'⟩ := y
      · obtain rfl := ends
        exact said
      · obtain ⟨-, -, rfl⟩ := ends
        exact said.trans (Network.said_shares _ (fun count => count + 1) w₁.network)

end LdapDirContext

end ManagedLdap
