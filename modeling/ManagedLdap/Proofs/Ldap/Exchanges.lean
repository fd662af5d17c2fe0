/-
# ManagedLdap.Proofs.Ldap.Exchanges -- telling a conversation from its connection

A connection remembers what was sent over it, and its server answers in the order of its replies.
So the exchanges between two moments can be told from the connection itself: they are the
requests that are new, each with the reply that was next (`Network.exchanges`).  A conversation
is never anything else (`Converses.exchanges_eq`), whatever call had it, and from here on what a
call heard is what its connection tells.

`Act.Leads` and `LdapDirContext.perform_leads` are for relations between what a call finds and
what it leaves.  An operation is put together from single requests, reads of an entry and the
handing out of contexts; a relation that these have, and that chains, holds of every operation but
searches and listings.
-/
import ManagedLdap.Proofs.Ldap.Conversation
import ManagedLdap.Proofs.Ldap.Shares

namespace ManagedLdap

set_option autoImplicit false

/-! ## Exchanges of a connection -/

/-- Requests with the replies to them, plain success where none is left. -/
def Exchange.pairUp (patience : Option Nat) (library : Library) :
    List ServerReply → List SentRequest → List Exchange
  | _, [] => []
  | script, r :: later =>
      ⟨r, script.headD {}, patience, library⟩ :: pairUp patience library (script.drop 1) later

/-- What a caller of that patience exchanged over a connection that came from `l` to `l'`. -/
def Link.exchanges (l : Link) (patience : Option Nat) (l' : Link) : List Exchange :=
  Exchange.pairUp patience l.library l.script (l'.sent.drop l.sent.length)

/-- What was exchanged over a line, if it is there. -/
def Network.exchanges (line : Option LinkId) (patience : Option Nat) (n n' : Network) :
    List Exchange :=
  match n.seen line, n'.seen line with
  | some l, some l' => l.exchanges patience l'
  | _, _ => []

namespace Converses

variable {patience : Option Nat} {es : List Exchange} {l : Link} {l' : Option Link}
  {line : Option LinkId} {n n' : Network}

/-- A conversation leaves its connection there, with its requests behind those before. -/
theorem sent (said : Converses patience es (some l) l') :
    ∃ after, l' = some after ∧ after.sent = l.sent ++ es.map Exchange.sent := by
  generalize start : some l = here at said
  induction said generalizing l with
  | silent here =>
      subst start
      exact ⟨l, rfl, (List.append_nil _).symm⟩
  | @exchange e es here l' listens next rest ih =>
      obtain rfl := Option.some.inj start
      obtain ⟨after, there, sent⟩ := ih rfl
      refine ⟨after, there, ?_⟩
      simpa [Link.exchanged] using sent

/-- Every exchange is waited for alike, and read by the library of the connection. -/
theorem terms (said : Converses patience es (some l) l') :
    ∀ e ∈ es, e.patience = patience ∧ e.library = l.library := by
  generalize start : some l = here at said
  induction said generalizing l with
  | silent here => exact List.forall_mem_nil _
  | @exchange e es here l' listens next rest ih =>
      obtain rfl := Option.some.inj start
      refine List.forall_mem_cons.2 ⟨?_, ih (l := l.exchanged e) rfl⟩
      rw [next]
      exact ⟨rfl, rfl⟩

/-- Where there is no connection nothing is said. -/
theorem unconnected (said : Converses patience es none l') : es = [] ∧ l' = none := by
  cases said
  exact ⟨rfl, rfl⟩

theorem link_exchanges {after : Link} (said : Converses patience es (some l) (some after)) :
    l.exchanges patience after = es := by
  generalize start : some l = here at said
  induction es generalizing l here with
  | nil =>
      cases said
      obtain rfl := Option.some.inj start
      rw [Link.exchanges, List.drop_length]
      rfl
  | cons e es ih =>
      subst start
      cases said with
      | exchange listens next rest =>
          obtain ⟨_, there, sent⟩ := rest.sent
          obtain rfl := Option.some.inj there
          have later := ih _ rfl rest
          have new : after.sent.drop l.sent.length = e.sent :: es.map Exchange.sent := by
            rw [sent, Link.exchanged, List.append_assoc, List.drop_left]
            rfl
          have newer : after.sent.drop (l.exchanged e).sent.length = es.map Exchange.sent := by
            rw [sent, List.drop_left]
          rw [Link.exchanges, newer] at later
          rw [Link.exchanges, new, Exchange.pairUp]
          exact congr (congrArg List.cons next.symm) later

/-- **A conversation is what its connection tells.** -/
theorem exchanges_eq (said : Converses patience es (n.seen line) (n'.seen line)) :
    n.exchanges line patience n' = es := by
  unfold Network.exchanges
  cases here : n.seen line with
  | none =>
      rw [here] at said
      exact said.unconnected.1.symm
  | some l =>
      rw [here] at said
      obtain ⟨after, there, -⟩ := said.sent
      rw [there] at said ⊢
      exact said.link_exchanges

/-- What was sent over the connection of a conversation. -/
theorem sentOver {k : LinkId} (said : Converses patience es (n.seen (some k)) (n'.seen (some k))) :
    n'.sentOver k = n.sentOver k ++ es.map Exchange.sent := by
  have tells : ∀ m : Network, m.sentOver k = (m.seen (some k)).elim [] Link.sent := by
    intro m
    change _ = ((m.link? k).map Link.unshared).elim [] Link.sent
    unfold Network.sentOver
    cases m.link? k <;> rfl
  rw [tells, tells]
  cases here : n.seen (some k) with
  | none =>
      rw [here] at said
      obtain ⟨rfl, there⟩ := said.unconnected
      rw [there]
      rfl
  | some l =>
      rw [here] at said
      obtain ⟨after, there, sent⟩ := said.sent
      rw [there]
      exact sent

end Converses

/-! ## Results -/

/-- The results that were received in some exchanges. -/
def heard (es : List Exchange) : List LdapResult := es.filterMap Exchange.result?

/-- The controls that a context has after some exchanges, when it had `held` before and keeps those
of the last result. -/
def lastControls (held : List Control) (es : List Exchange) : List Control :=
  ((heard es).getLast?.map LdapResult.controls).getD held

/-- Where no result was received nothing changes. -/
theorem lastControls_unheard (held : List Control) {es : List Exchange}
    (unheard : ∀ e ∈ es, e.result? = none) : lastControls held es = held := by
  have nothing : heard es = [] := List.filterMap_eq_nil_iff.2 unheard
  rw [lastControls, nothing]
  rfl

theorem lastControls_result (held : List Control) {e : Exchange} {r : LdapResult}
    (arrived : e.result? = some r) : lastControls held [e] = r.controls := by
  simp [lastControls, heard, arrived]

theorem lastControls_append (held : List Control) (es es' : List Exchange) :
    lastControls held (es ++ es') = lastControls (lastControls held es) es' := by
  unfold lastControls heard
  rw [List.filterMap_append, List.getLast?_append]
  cases (es'.filterMap Exchange.result?).getLast? with
  | none => rfl
  | some r => rfl

namespace LdapDirContext

variable {κ : Type}

/-- What the answer to a request about `dn` says. -/
def told (c : LdapDirContext) (dn : String) (e : Exchange) : Except DirError Unit :=
  match e.result? with
  | none => .error (.ofClient e.silence)
  | some r => c.verdict r dn

/-- Why a request is not sent at all: the context is closed, or its server does not listen. -/
def unsent (c : LdapDirContext) : DirError :=
  match c.connection with
  | none => .closed
  | some _ => .ofClient .sendOnClosed

/-- The context after some exchanges. -/
def after (c : LdapDirContext) (es : List Exchange) : LdapDirContext :=
  { c with responseControls := lastControls c.responseControls es }

/-- What a request of a context came to: it was not sent, or it was exchanged for a reply, of which
the context keeps the controls and the caller hears `outcome`. -/
inductive Requested {α : Type} (c : LdapDirContext) (sent : SentRequest) (w : World κ)
    (outcome : Exchange → Except Failure α) : Except Failure α × LdapDirContext × World κ → Prop
  | unsent (deaf : (w.network.seen c.connection).any Link.isOpen = false) :
      Requested c sent w outcome (.error (.error c.unsent), c, w)
  | exchanged {e : Exchange} {w' : World κ} (asks : e.sent = sent)
      (said : Converses c.patience [e] (w.network.seen c.connection)
        (w'.network.seen c.connection)) :
      Requested c sent w outcome (outcome e, c.after [e], w')

/-- What goes on without a word after a request changes nothing but what the caller hears. -/
theorem Requested.quietly {α β : Type} {c : LdapDirContext} {sent : SentRequest} {w : World κ}
    {outcome : Exchange → Except Failure α} {x : Act κ LdapDirContext α}
    (requested : Requested c sent w outcome (x c w)) {next : α → Act κ LdapDirContext β}
    {hears : α → Except Failure β} (silent : ∀ a c w, next a c w = (hears a, c, w)) :
    Requested c sent w (fun e => (outcome e).bind hears) ((x >>= next) c w) := by
  rw [Act.bind_apply]
  generalize x c w = y at requested
  cases requested with
  | unsent deaf => exact .unsent deaf
  | @exchanged e w' asks said =>
      have whole : Requested c sent w (fun e => (outcome e).bind hears) _ := .exchanged asks said
      cases came : outcome e with
      | error f =>
          simp only [came] at whole
          exact whole
      | ok a =>
          simp only [came] at whole
          simp only [silent]
          exact whole

/-- What a request hands on: its reply and the verdict on it. -/
def received (c : LdapDirContext) (dn : String) (e : Exchange) :
    Except Failure (ServerReply × Except DirError Unit) :=
  match e.result? with
  | none => .error (.error (.ofClient e.silence))
  | some r => .ok (e.reply, c.verdict r dn)

theorem seen_isOpen (n : Network) (k : LinkId) :
    (n.seen (some k)).any Link.isOpen = n.isOpen k := by
  change ((n.link? k).map Link.unshared).any Link.isOpen = n.isOpen k
  unfold Network.isOpen
  cases n.link? k <;> rfl

/-- A request that the server takes is exchanged for its next reply. -/
theorem request_listens {c : LdapDirContext} {k : LinkId} (held : c.connection = some k)
    (dn : String) {r : Request} (single : r.isSearch = false) {w : World κ}
    (listens : w.network.isOpen k = true) :
    let e := w.network.answer k c.patience ⟨r, c.requestControls⟩
    request dn r c w = (c.received dn e, c.after [e], w.exchange k e.sent ServerReply.closes) := by
  intro e
  simp only [request, linkOf, held, Client.orFail, Act.bind_apply, Act.self_apply, Act.pure_apply,
    Client.exchange_apply, listens, if_true]
  rcases Client.heard_eq (e := e) single with ⟨failed, lost⟩ | ⟨heard, arrived⟩
  · replace failed : (w.network.nextReply k).heard c.patience = .error e.silence := failed
    have same : c.after [e] = c := by
      rw [after, lastControls_unheard _ (List.forall_mem_singleton.2 lost)]
    simp only [failed, received, lost, same, Act.fail_apply]
    rfl
  · replace heard : (w.network.nextReply k).heard c.patience = .ok e.reply := heard
    have last : c.after [e] = { c with responseControls := e.reply.response.controls } := by
      rw [after, lastControls_result _ arrived]
    simp only [heard, received, arrived, last, check_apply, Act.pure_apply]
    rfl

/-- A single request of a context. -/
theorem request_requested (dn : String) {r : Request} (single : r.isSearch = false)
    (c : LdapDirContext) (w : World κ) :
    Requested c ⟨r, c.requestControls⟩ w (c.received dn) (request dn r c w) := by
  cases held : c.connection with
  | none =>
      have refused : request dn r c w = (.error (.error c.unsent), c, w) := by
        simp only [request, linkOf, unsent, held, Act.bind_apply, Act.self_apply, Act.fail_apply]
      rw [refused]
      exact .unsent (by rw [held]; rfl)
  | some k =>
      cases listens : w.network.isOpen k with
      | false =>
          have refused : request dn r c w = (.error (.error c.unsent), c, w) := by
            simp only [request, linkOf, unsent, held, Client.orFail, Act.bind_apply,
              Act.self_apply, Act.pure_apply, Client.exchange_apply, listens, Bool.false_eq_true,
              if_false, Act.fail_apply]
          rw [refused]
          exact .unsent (by rw [held, seen_isOpen, listens])
      | true =>
          rw [request_listens held dn single listens]
          have said := Network.exchanged_seen listens c.patience ⟨r, c.requestControls⟩
            (Exchange.closes_single single)
          rw [← held] at said
          exact .exchanged rfl said

end LdapDirContext

/-! ## What calls lead to -/

/-- A call that leads from what it finds to something that is related to it. -/
def Act.Leads {κ σ α : Type} (R : σ × World κ → σ × World κ → Prop) (x : Act κ σ α) : Prop :=
  ∀ s w, R (s, w) (x s w).2

namespace Act.Leads

variable {κ σ α β : Type} {R : σ × World κ → σ × World κ → Prop}

theorem ret (refl : ∀ a, R a a) (a : α) : Leads R (pure a : Act κ σ α) := fun s w => refl (s, w)

theorem fail (refl : ∀ a, R a a) (e : DirError) : Leads R (Act.fail e : Act κ σ α) :=
  fun s w => refl (s, w)

theorem bind (trans : ∀ ⦃a b c⦄, R a b → R b c → R a c) {x : Act κ σ α} {f : α → Act κ σ β}
    (first : Leads R x) (second : ∀ a, Leads R (f a)) : Leads R (x >>= f) := by
  intro s w
  have led := first s w
  rw [bind_apply]
  generalize x s w = y at led
  obtain ⟨failure | a, s', w'⟩ := y
  · exact led
  · exact trans led (second a s' w')

theorem map (refl : ∀ a, R a a) (trans : ∀ ⦃a b c⦄, R a b → R b c → R a c) {x : Act κ σ α}
    (f : α → β) (leads : Leads R x) : Leads R (f <$> x) := by
  rw [← bind_pure_comp]
  exact leads.bind trans fun a => ret refl (f a)

/-- Looking at the object leads nowhere. -/
theorem withSelf {f : σ → Act κ σ β} (next : ∀ s, Leads R (f s)) : Leads R (Act.self >>= f) :=
  fun s w => next s s w

end Act.Leads

/-! ## What operations are put together from -/

namespace LdapDirContext

open Act (Leads)

variable {κ : Type}

/-- A relation that single requests, reads of an entry and the handing out of contexts have, and
that chains. -/
structure Chains (R : LdapDirContext × World κ → LdapDirContext × World κ → Prop) : Prop where
  refl : ∀ a, R a a
  trans : ∀ ⦃a b c⦄, R a b → R b c → R a c
  request : ∀ dn {r : Request}, r.isSearch = false → Leads R (request dn r)
  readEntry : ∀ dn names, Leads R (readEntry dn names)
  child : ∀ base controls, Leads R (child base controls)

namespace Chains

variable {R : LdapDirContext × World κ → LdapDirContext × World κ → Prop} (chains : Chains R)

include chains

theorem demand {α : Type} (verdict : Except DirError α) :
    Leads R (LdapDirContext.demand verdict) := by
  cases verdict with
  | ok a => exact .ret chains.refl a
  | error e => exact .fail chains.refl e

theorem send (dn : String) {r : Request} (single : r.isSearch = false) :
    Leads R (LdapDirContext.send dn r) :=
  (chains.request dn single).bind chains.trans fun answer => chains.demand answer.2

theorem deleteEntry (dn : String) : Leads R (LdapDirContext.deleteEntry dn) := by
  refine (chains.request dn rfl).bind chains.trans fun answer => ?_
  obtain ⟨reply, verdict⟩ := answer
  dsimp only
  split
  · exact .ret chains.refl ()
  · exact chains.demand _

theorem linkOf (c : LdapDirContext) : Leads R (c.linkOf : Act κ LdapDirContext LinkId) := by
  unfold LdapDirContext.linkOf
  cases c.connection with
  | none => exact .fail chains.refl .closed
  | some k => exact .ret chains.refl k

theorem schemaDn (dn : String) : Leads R (LdapDirContext.schemaDn dn) := by
  refine (chains.readEntry dn _).bind chains.trans fun entry => ?_
  split
  · exact .ret chains.refl _
  · exact (chains.readEntry "" _).bind chains.trans fun _ => .ret chains.refl _

theorem bind (name : String) (attrs : Attributes) : Leads R (LdapDirContext.bind name attrs) :=
  .withSelf fun _ => chains.send _ rfl

theorem unbind (name : String) : Leads R (LdapDirContext.unbind name) :=
  .withSelf fun _ => chains.deleteEntry _

theorem modify (name : String) (mods : List Modification) :
    Leads R (LdapDirContext.modify name mods) := by
  unfold LdapDirContext.modify
  split
  · exact .ret chains.refl ()
  · refine Leads.withSelf fun c => (chains.linkOf c).bind chains.trans fun _ => ?_
    dsimp only
    split
    · exact .fail chains.refl _
    · exact chains.send _ rfl

/-- A call that hands out a context when something else is done. -/
theorem handsOut {α : Type} {x : Act κ LdapDirContext α} (leads : Leads R x)
    (base : α → LdapDirContext → String) :
    Leads R (do let a ← x; let c ← Act.self; LdapDirContext.child (base a c) c.requestControls) :=
  leads.bind chains.trans fun _ => .withSelf fun _ => chains.child _ _

theorem done {x : Act κ LdapDirContext Unit} (leads : Leads R x) :
    Leads R (do x; return (Reply.done : Reply LdapDirContext SearchCursor)) :=
  leads.bind chains.trans fun _ => .ret chains.refl _

/-- A call whose value is what an operation returns. -/
theorem returns {α β : Type} {x : Act κ LdapDirContext α} (f : α → β) (leads : Leads R x) :
    Leads R (f <$> x) := leads.map chains.refl chains.trans f

end Chains

/-- **What operations are put together from.**  What requests, reads of an entry and the handing
out of contexts lead to, every operation but a search, a listing and a reconnect leads to. -/
theorem perform_leads {R : LdapDirContext × World κ → LdapDirContext × World κ → Prop}
    (chains : Chains R) {op : Op} (converses : isConversation op = true) :
    Leads R (perform op) := by
  cases op with
  | bind name attrs => exact chains.done (chains.bind name attrs)
  | rebind name attrs =>
      exact chains.done ((chains.unbind name).bind chains.trans fun _ => chains.bind name attrs)
  | unbind name => exact chains.done (chains.unbind name)
  | rename name newName => exact chains.done (.withSelf fun _ => chains.send _ rfl)
  | modify name mods => exact chains.done (chains.modify name mods)
  | destroySubcontext name => exact chains.done (chains.unbind name)
  | getAttributes name ids =>
      refine chains.returns _ (.withSelf fun c => ?_)
      exact (chains.readEntry _ _).bind chains.trans fun _ => .ret chains.refl _
  | getSchemaClassDefinition name =>
      refine chains.returns _ (.withSelf fun c => ?_)
      refine (chains.readEntry _ _).bind chains.trans fun _ => ?_
      refine (chains.schemaDn _).bind chains.trans fun _ => ?_
      exact (chains.readEntry _ _).bind chains.trans fun _ => .ret chains.refl _
  | extendedOperation r =>
      refine chains.returns _ (.withSelf fun c => ?_)
      refine (chains.request _ rfl).bind chains.trans fun _ => ?_
      exact (chains.demand _).bind chains.trans fun _ => .ret chains.refl _
  | lookup name =>
      refine chains.returns _ (.withSelf fun c => ?_)
      exact chains.handsOut (chains.readEntry _ _) fun _ _ => c.resolve name
  | createSubcontext name attrs =>
      exact chains.returns _ (chains.handsOut (chains.bind name attrs) fun _ c => c.resolve name)
  | getSchema name =>
      refine chains.returns _ (.withSelf fun c => ?_)
      exact chains.handsOut (chains.schemaDn _) fun schema _ => schema
  | newInstance controls =>
      refine chains.returns _ (.withSelf fun c => ?_)
      exact (chains.linkOf c).bind chains.trans fun _ => chains.child _ _
  | _ => cases converses

end LdapDirContext

end ManagedLdap
