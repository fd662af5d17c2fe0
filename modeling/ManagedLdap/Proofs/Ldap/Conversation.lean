/-
# ManagedLdap.Proofs.Ldap.Conversation -- requests and the replies to them

An operation of a context is a conversation over its connection: it sends a request, gets the next
reply, and goes on from there.  `Converses` is that conversation as a list of exchanges, each of
which found the server listening and took the reply that was next.  What the server answers
(`Exchange.answer?`) and what the caller hears of it (`Exchange.result?`) are two things, since the
answer may come too late.

`Conversed` says what an operation comes to in terms of its conversation.  A referral ends the
conversation and decides the outcome: it becomes an error with the addresses of the result as the
library hands it out, about the entry that the request was about.  And no other error of an
operation carries addresses.
`perform_converses` says so of all operations but searches and listings, which read their replies
page by page.

It says also what is asked for: the requests of an operation name its targets, which are the full
names of what it is about (`LdapDirContext.Means`).
-/
import ManagedLdap.Proofs.Ldap.Confined
import ManagedLdap.Proofs.Ldap.Places
import ManagedLdap.Proofs.Ldap.References

namespace ManagedLdap

set_option autoImplicit false

open Act (Talks)

/-! ## Exchanges -/

/-- Whether the reply to a request may bring messages before its result. -/
def Request.isSearch : Request → Bool
  | .search _ => true
  | _ => false

/-- A request and the reply to it, with how long the caller waits for that and what reads it. -/
structure Exchange where
  sent : SentRequest
  reply : ServerReply
  patience : Option Nat
  library : Library

namespace Exchange

/-- Whether the connection closes before the result. -/
def cuts (e : Exchange) : Bool := e.reply.drop || (e.sent.request.isSearch && e.reply.cut)

/-- Whether the connection is closed when the server is done. -/
def closes (e : Exchange) : Bool := e.cuts || e.reply.hangUp

/-- The result that the server gives, if it gives one. -/
def answer? (e : Exchange) : Option LdapResult :=
  if e.cuts then none else some e.reply.response

/-- The result that the caller hears: that of the server, unless it comes too late. -/
def result? (e : Exchange) : Option LdapResult :=
  if e.reply.isLate e.patience then none else e.answer?

/-- Why the caller of a single request hears no result: it comes too late, or the connection
closes before it. -/
def silence (e : Exchange) : ClientError :=
  if e.reply.isLate e.patience then .timeout else .receiveOnClosed

/-- A result as the library hands it out. -/
def handed (e : Exchange) (r : LdapResult) : LdapResult :=
  if e.sent.request.isSearch then (e.library.collect e.reply.messages r).2 else r

/-- The addresses of the continuation references that come before the result. -/
def passed (e : Exchange) : List String :=
  if e.sent.request.isSearch then Client.references e.reply.messages else []

variable {e : Exchange}

theorem closes_single (single : e.sent.request.isSearch = false) : e.closes = e.reply.closes := by
  rw [closes, cuts, single, Bool.false_and, Bool.or_false, ServerReply.closes]

theorem closes_search (search : e.sent.request.isSearch = true) :
    e.closes = e.reply.closesSearch := by
  rw [closes, cuts, search, Bool.true_and, ServerReply.closesSearch]

/-- What is handed out is the result of the server, but perhaps for its addresses. -/
theorem handed_eq (e : Exchange) (r : LdapResult) :
    ∃ refs, e.handed r = { r with refs := refs } := by
  unfold handed
  split
  · exact e.library.collect_result _ r
  · exact ⟨r.refs, rfl⟩

@[simp] theorem handed_code (e : Exchange) (r : LdapResult) : (e.handed r).code = r.code := by
  obtain ⟨refs, same⟩ := e.handed_eq r
  rw [same]

end Exchange

/-- What is exchanged over a connection for a request. -/
def Link.answer (l : Link) (patience : Option Nat) (r : SentRequest) : Exchange :=
  ⟨r, l.script.headD {}, patience, l.library⟩

/-- A connection after an exchange. -/
def Link.exchanged (l : Link) (e : Exchange) : Link :=
  { l with script := l.script.drop 1, sent := l.sent ++ [e.sent], isOpen := !e.closes }

/-- What can be told of a connection before and after a conversation: each request found the
server listening and took its next reply. -/
inductive Converses (patience : Option Nat) : List Exchange → Option Link → Option Link → Prop
  | silent (l : Option Link) : Converses patience [] l l
  | exchange {e : Exchange} {es : List Exchange} {l : Link} {l' : Option Link}
      (listens : l.isOpen = true) (next : e = l.answer patience e.sent)
      (rest : Converses patience es (some (l.exchanged e)) l') :
      Converses patience (e :: es) (some l) l'

namespace Converses

variable {patience : Option Nat} {es es' : List Exchange} {l l' l'' : Option Link}

theorem append (first : Converses patience es l l') (rest : Converses patience es' l' l'') :
    Converses patience (es ++ es') l l'' := by
  induction first with
  | silent l => exact rest
  | exchange listens next _ ih => exact .exchange listens next (ih rest)

end Converses

namespace Network

variable {n n' : Network} {k : LinkId}

/-- What is exchanged over a connection for a request. -/
def answer (n : Network) (k : LinkId) (patience : Option Nat) (r : SentRequest) : Exchange :=
  ⟨r, n.nextReply k, patience, n.reader k⟩

/-- An exchange over a connection whose server listens. -/
theorem exchanged_seen (listens : n.isOpen k = true) (patience : Option Nat) (r : SentRequest)
    {closes : Bool} (ends : (n.answer k patience r).closes = closes) :
    Converses patience [n.answer k patience r] (n.seen (some k))
      (((n.send k r).takeReply k closes).seen (some k)) := by
  subst ends
  have looks : ∀ n' : Network, n'.seen (some k) = (n'.link? k).map Link.unshared := fun _ => rfl
  cases found : n.link? k with
  | none => simp [isOpen, found] at listens
  | some l =>
      simp only [isOpen, found] at listens
      have next : n.answer k patience r = l.unshared.answer patience r := by
        simp only [answer, nextReply, reader, found]
        rfl
      rw [looks, looks, send, takeReply, modifyLink_modifyLink, link?_modifyLink, if_pos rfl, found]
      refine .exchange (l := l.unshared) listens next ?_
      have after : Link.unshared { l with
            sent := l.sent ++ [r], script := l.script.drop 1
            isOpen := l.isOpen && !(n.answer k patience r).closes } =
          l.unshared.exchanged (n.answer k patience r) := by
        simp only [Link.unshared, Link.exchanged, listens, Bool.true_and]
        rfl
      exact after ▸ .silent _

end Network

/-! ## Requests of the client -/

namespace Client

variable {κ σ α : Type} {k : LinkId} {patience : Option Nat} {P : SentRequest → Prop}

/-- What became of a call of the client that may send a request, which meets `P` then: it fails
without a result, or makes `value` of the result. -/
def Asked (k : LinkId) (patience : Option Nat) (P : SentRequest → Prop)
    (value : Exchange → LdapResult → α) (s : σ) (w : World κ)
    (y : Except Failure (Except ClientError α) × σ × World κ) : Prop :=
  y.2.1 = s ∧
    ∃ es, Converses patience es (w.network.seen (some k)) (y.2.2.network.seen (some k)) ∧
    (∀ e ∈ es, P e.sent) ∧
    (((∃ f, y.1 = .ok (.error f)) ∧ ∀ e ∈ es, e.result? = none) ∨
      ∃ e r, es = [e] ∧ e.result? = some r ∧ y.1 = .ok (.ok (value e r)))

/-- A call of the client that may send one request. -/
def Asks (k : LinkId) (patience : Option Nat) (P : SentRequest → Prop)
    (value : Exchange → LdapResult → α) (x : Act κ σ (Except ClientError α)) : Prop :=
  ∀ s w, Asked k patience P value s w (x s w)

theorem Asked.refused {value : Exchange → LdapResult → α} (f : ClientError) (s : σ)
    (w : World κ) : Asked k patience P value s w (.ok (.error f), s, w) :=
  ⟨rfl, [], .silent _, List.forall_mem_nil _, .inl ⟨⟨f, rfl⟩, List.forall_mem_nil _⟩⟩

theorem exchange_apply (link : LinkId) (patience : Option Nat) (controls : List Control)
    (request : Request) (s : σ) (w : World κ) :
    exchange link patience controls request s w =
      if w.network.isOpen link then
        (.ok ((w.network.nextReply link).heard patience), s,
          w.exchange link ⟨request, controls⟩ ServerReply.closes)
      else (.ok (.error .sendOnClosed), s, w) := by
  simp only [exchange, Act.bind_apply, Act.network_apply]
  split <;> rfl

/-- What a caller hears of the answer to a single request: the reply, where there is a result. -/
theorem heard_eq {e : Exchange} (single : e.sent.request.isSearch = false) :
    (e.reply.heard e.patience = .error e.silence ∧ e.result? = none) ∨
      e.reply.heard e.patience = .ok e.reply ∧ e.result? = some e.reply.response := by
  have cuts : e.cuts = e.reply.drop := by
    rw [Exchange.cuts, single, Bool.false_and, Bool.or_false]
  unfold ServerReply.heard Exchange.silence Exchange.result? Exchange.answer?
  rw [cuts]
  split
  · exact .inl ⟨rfl, rfl⟩
  · split
    · exact .inl ⟨rfl, rfl⟩
    · exact .inr ⟨rfl, rfl⟩

theorem exchange_asks (patience : Option Nat) (controls : List Control) {r : Request}
    (single : r.isSearch = false) :
    Asks k patience (· = ⟨r, controls⟩) (fun e _ => e.reply)
      (exchange k patience controls r : Act κ σ _) := by
  intro s w
  rw [exchange_apply]
  split
  · next listens =>
      have said := Network.exchanged_seen listens patience ⟨r, controls⟩
        (Exchange.closes_single single)
      refine ⟨rfl, _, said, List.forall_mem_singleton.2 rfl, ?_⟩
      rcases heard_eq (e := w.network.answer k patience ⟨r, controls⟩) single with
        ⟨failed, nothing⟩ | ⟨heard, arrived⟩
      · exact .inl ⟨⟨_, congrArg Except.ok failed⟩, List.forall_mem_singleton.2 nothing⟩
      · exact .inr ⟨_, _, rfl, arrived, congrArg Except.ok heard⟩
  · exact .refused .sendOnClosed s w

theorem requestPage_apply (search : Search) (cookie : Octets) (s : σ) (w : World κ) :
    requestPage search cookie s w =
      let reply := w.network.nextReply search.link
      if w.network.isOpen search.link then
        (.ok (.ok {
            toSearch := search
            messages := if reply.drop then [] else reply.messages
            ending := pageEnd reply search.patience
            latest := search.library.latest search.first (w.network.sentCount search.link) }), s,
          w.exchange search.link (search.page cookie) ServerReply.closesSearch)
      else (.ok (.error .sendOnClosed), s, w) := by
  simp only [requestPage, Act.bind_apply, Act.network_apply]
  split <;> rfl

/-- How the messages of a page end is what the caller hears of its result. -/
theorem pageEnd_eq {e : Exchange} (search : e.sent.request.isSearch = true) :
    ((∃ f, pageEnd e.reply e.patience = .broken f) ∧ e.result? = none) ∨
      ∃ r, e.result? = some r ∧ pageEnd e.reply e.patience = .result r := by
  have cuts : e.cuts = (e.reply.drop || e.reply.cut) := by
    rw [Exchange.cuts, search, Bool.true_and]
  unfold pageEnd Exchange.result? Exchange.answer?
  rw [cuts]
  split
  · exact .inl ⟨⟨_, rfl⟩, rfl⟩
  · split
    · exact .inl ⟨⟨_, rfl⟩, rfl⟩
    · exact .inr ⟨_, rfl, rfl⟩

/-- A search that is read at once hands out what the library makes of it. -/
theorem searchAll_asks (patience : Option Nat) (controls : List Control) (spec : SearchSpec) :
    Asks k patience (fun sent => ∃ tree, sent = ⟨.search (spec.toRequest tree), controls⟩)
      (fun e r => e.library.collect e.reply.messages r)
      (searchAll k patience controls spec : Act κ σ _) := by
  intro s w
  simp only [searchAll, startSearch, Option.isSome_none, Bool.false_and, Bool.false_eq_true,
    if_false, Act.bind_apply]
  cases Filter.parse? spec.filter with
  | none => exact .refused .filterParsing s w
  | some tree =>
      simp only [Act.bind_apply, Act.network_apply, requestPage_apply]
      cases listens : w.network.isOpen k with
      | false => exact .refused .sendOnClosed s w
      | true =>
          let e := w.network.answer k patience ⟨.search (spec.toRequest tree), controls⟩
          have said := Network.exchanged_seen listens patience e.sent (Exchange.closes_search rfl)
          have asked : ∀ e' ∈ [e], ∃ tree, e'.sent = ⟨.search (spec.toRequest tree), controls⟩ :=
            List.forall_mem_singleton.2 ⟨tree, rfl⟩
          rcases pageEnd_eq (e := e) rfl with
            ⟨⟨f, broken⟩, nothing⟩ | ⟨r, arrived, ends⟩
          · replace broken : pageEnd (w.network.nextReply k) patience = .broken f := broken
            simp only [if_true, broken]
            exact ⟨rfl, [e], said, asked, .inl ⟨⟨f, rfl⟩, List.forall_mem_singleton.2 nothing⟩⟩
          · replace ends : pageEnd (w.network.nextReply k) patience = .result r := ends
            have whole := (Bool.or_eq_false_iff.1 (pageEnd_whole ends)).1
            simp only [if_true, ends, whole, Bool.false_eq_true, if_false]
            exact ⟨rfl, [e], said, asked, .inr ⟨e, r, rfl, arrived, rfl⟩⟩

end Client

/-! ## What is asked for -/

/-- Whether an operation concerns the schema of an entry. -/
def Op.concernsSchema : Op → Bool
  | .getSchema _ | .getSchemaClassDefinition _ => true
  | _ => false

/-- The names in a request, in turn.  A move names the entry and what it is to be called. -/
def Request.Names : Request → List String → Prop
  | .search r, dns => dns = [r.base]
  | .add dn _, dns | .modify dn _, dns | .delete dn, dns => dns = [dn]
  | .modifyDn dn rdn deleteOld newSuperior, dns => ∃ newDn, dns = [dn, newDn] ∧
      .modifyDn dn rdn deleteOld newSuperior = LdapDirContext.renameRequest dn newDn
  | .extended _ _, dns => dns = []
  | .bind _ _, _ | .unbind, _ | .abandon _, _ => False

/-- A request for where the schema of the root is, or for the definitions of a schema. -/
def Request.ReadsSchema : Request → Prop
  | .search r => r.scope = .object ∧
      (r.base = "" ∧ r.attributes = [LdapDirContext.subschema] ∨ r.attributes = ["objectClasses"])
  | _ => False

/-! ## What an operation comes to -/

namespace LdapDirContext

variable {κ : Type} {α β : Type} {c₀ : LdapDirContext}

/-- The entry that a request of a context is about; an extended operation is about the base. -/
def targetOf (c : LdapDirContext) : Request → String
  | .search r => r.base
  | .add dn _ | .modify dn _ | .delete dn | .modifyDn dn _ _ _ => dn
  | .extended _ _ => c.base
  | .bind dn _ => dn
  | .unbind | .abandon _ => ""

/-- What may be asked for an operation: something of its targets, and, where it concerns their
schema, also where that is and what it says. -/
def Means (c : LdapDirContext) (op : Op) (r : Request) : Prop :=
  r.Names (c.targets op) ∨ op.concernsSchema = true ∧ r.ReadsSchema

/-- What became of a call of `c₀` that had this conversation, with requests that meet `P`. -/
structure Conversed (c₀ : LdapDirContext) (P : Request → Prop) (es : List Exchange) (w : World κ)
    (y : Except Failure α × LdapDirContext × World κ) : Prop where
  like : Like c₀ y.2.1
  traffic : Converses c₀.patience es (w.network.seen c₀.connection)
    (y.2.2.network.seen c₀.connection)
  asks : ∀ e ∈ es, P e.sent.request
  /-- A referral is the last thing that is heard, and what the call fails with. -/
  referred : ∀ e ∈ es, ∀ r, e.result? = some r → r.code = 10 → es.getLast? = some e ∧
    y.1 = .error (.error (c₀.origin.error (e.handed r).refs (c₀.targetOf e.sent.request)))
  /-- What a referral is followed with is what the context has. -/
  origin : ∀ referral, y.1 = .error (.error (.referral referral)) →
    ∃ r : LdapReferral, referral = .ldap r ∧ r.origin = c₀.origin

/-- A call of `c₀` that has some conversation, with requests that meet `P`, and comes to what it
says. -/
def Conversing (c₀ : LdapDirContext) (P : Request → Prop) (x : Act κ LdapDirContext α) : Prop :=
  ∀ c w, Like c₀ c → ∃ es, Conversed c₀ P es w (x c w)

variable {P : Request → Prop}

namespace Conversing

theorem mono {P' : Request → Prop} {x : Act κ LdapDirContext α} (converses : Conversing c₀ P x)
    (weaker : ∀ r, P r → P' r) : Conversing c₀ P' x := by
  intro c w like
  obtain ⟨es, said⟩ := converses c w like
  exact ⟨es, { said with asks := fun e among => weaker _ (said.asks e among) }⟩

/-- Nothing is said. -/
theorem quiet {x : Act κ LdapDirContext α} (keeps : ∀ c w, Like c₀ c → Like c₀ (x c w).2.1)
    (silent : ∀ c w, Like c₀ c →
      (x c w).2.2.network.seen c₀.connection = w.network.seen c₀.connection)
    (plain : ∀ c w f, (x c w).1 = .error f → f.isReferral = false) : Conversing c₀ P x := by
  intro c w like
  refine ⟨[], keeps c w like, silent c w like ▸ .silent _, List.forall_mem_nil _,
    List.forall_mem_nil _, fun referral failed => ?_⟩
  cases plain c w _ failed

theorem ret (a : α) : Conversing c₀ P (pure a : Act κ LdapDirContext α) :=
  quiet (fun _ _ like => like) (fun _ _ _ => rfl) fun _ _ _ failed => by cases failed

theorem fail {e : DirError} (plain : e.isReferral = false) :
    Conversing c₀ P (Act.fail e : Act κ LdapDirContext α) :=
  quiet (fun _ _ like => like) (fun _ _ _ => rfl) fun _ _ f failed => by
    obtain rfl := Except.error.inj failed
    exact plain

theorem bind {x : Act κ LdapDirContext α} {f : α → Act κ LdapDirContext β}
    (first : Conversing c₀ P x) (second : ∀ a, Conversing c₀ P (f a)) :
    Conversing c₀ P (x >>= f) := by
  intro c w like
  obtain ⟨es, said⟩ := first c w like
  rw [Act.bind_apply]
  generalize x c w = y at said
  obtain ⟨failure | a, c', w'⟩ := y
  · refine ⟨es, said.like, said.traffic, said.asks, fun e among r came code => ?_,
      fun referral failed => said.origin referral (congrArg Except.error (Except.error.inj failed))⟩
    obtain ⟨last, failed⟩ := said.referred e among r came code
    exact ⟨last, congrArg Except.error (Except.error.inj failed)⟩
  · obtain ⟨es', said'⟩ := second a c' w' said.like
    refine ⟨es ++ es', said'.like, said.traffic.append said'.traffic,
      List.forall_mem_append.2 ⟨said.asks, said'.asks⟩, fun e among r came code => ?_,
      said'.origin⟩
    rcases List.mem_append.1 among with early | late
    · cases (said.referred e early r came code).2
    · obtain ⟨last, failed⟩ := said'.referred e late r came code
      refine ⟨?_, failed⟩
      rw [List.getLast?_append, last]
      rfl

theorem map {x : Act κ LdapDirContext α} (f : α → β) (converses : Conversing c₀ P x) :
    Conversing c₀ P (f <$> x) := by
  rw [← bind_pure_comp]
  exact converses.bind fun a => ret (f a)

/-- Going on with the context, which is like `c₀`. -/
theorem withSelf {f : LdapDirContext → Act κ LdapDirContext β}
    (next : ∀ c, Like c₀ c → Conversing c₀ P (f c)) : Conversing c₀ P (Act.self >>= f) :=
  fun c w like => next c like c w like

end Conversing

/-! ### Single requests -/

/-- Going on over the connection, if the context has one. -/
theorem onLink_converses {c : LdapDirContext} (like : Like c₀ c)
    {next : LinkId → Act κ LdapDirContext α}
    (converses : ∀ k, c₀.connection = some k → Conversing c₀ P (next k)) :
    Conversing c₀ P (c.linkOf >>= next) := by
  unfold linkOf
  split
  · next k held => exact converses k (like.connection.symm.trans held)
  · exact Conversing.fail (e := .closed) rfl

theorem verdict_like {c : LdapDirContext} (like : Like c₀ c) (result : LdapResult) (dn : String) :
    c.verdict result dn = c₀.verdict result dn := by
  simp only [verdict, like.origin]

theorem check_apply (result : LdapResult) (dn : String) (c : LdapDirContext) (w : World κ) :
    check result dn c w = (.ok (c.verdict result dn),
      { c with responseControls := result.controls }, w) := rfl

/-- The context after a response. -/
theorem Like.heard {c : LdapDirContext} (like : Like c₀ c) (controls : List Control) :
    Like c₀ { c with responseControls := controls } := by
  unfold Like
  rw [like]

/-- What goes on after the response to a request: it says nothing more, and it fails with the
verdict where that is a referral. -/
structure Concludes (c₀ : LdapDirContext) (next : Except DirError Unit → Act κ LdapDirContext α) :
    Prop where
  silent : ∀ verdict c w, (next verdict c w).2 = (c, w)
  refers : ∀ urls target c w, (next (.error (c₀.origin.error urls target)) c w).1 =
    .error (.error (c₀.origin.error urls target))
  /-- It fails with nothing but the verdict or an error without addresses. -/
  passes : ∀ verdict c w e, (next verdict c w).1 = .error (.error e) →
    verdict = .error e ∨ e.isReferral = false

theorem verdict_referred (c : LdapDirContext) {result : LdapResult} (code : result.code = 10)
    (dn : String) : c.verdict result dn = .error (c.origin.error result.refs dn) := by
  have failed : result.code ≠ 0 := by omega
  rw [verdict, if_neg failed, if_pos code]

theorem verdict_origin {c : LdapDirContext} {result : LdapResult} {dn : String}
    {referral : Referral} (judged : c.verdict result dn = .error (.referral referral)) :
    ∃ r : LdapReferral, referral = .ldap r ∧ r.origin = c.origin := by
  unfold verdict at judged
  split at judged
  · cases judged
  · split at judged
    · unfold ReferralOrigin.error at judged
      split at judged
      · obtain rfl := DirError.referral.inj (Except.error.inj judged)
        exact ⟨_, rfl, rfl⟩
      · cases judged
    · have plain := DirError.isReferral_ofResult result dn
      rw [Except.error.inj judged] at plain
      cases plain

/-- A request about an entry, and what the result comes to. -/
theorem judged_converses {k : LinkId} (on : c₀.connection = some k) {S : SentRequest → Prop}
    {value : Exchange → LdapResult → α} {x : Act κ LdapDirContext (Except ClientError α)}
    (asks : Client.Asks k c₀.patience S value x) {dn : String}
    (about : ∀ sent, S sent → c₀.targetOf sent.request = dn ∧ P sent.request)
    {judge : α → LdapResult} (judges : ∀ e r, S e.sent → e.result? = some r →
      judge (value e r) = e.handed r)
    {next : α → Except DirError Unit → Act κ LdapDirContext β}
    (concludes : ∀ a, Concludes c₀ (next a)) :
    Conversing c₀ P (do
      let a ← Client.orFail x
      let verdict ← check (judge a) dn
      next a verdict) := by
  intro c w like
  obtain ⟨same, es, said, met, came⟩ := asks c w
  simp only [Client.orFail, Act.bind_apply]
  generalize x c w = y at same said came
  obtain ⟨outcome, c', w'⟩ := y
  obtain rfl : c' = c := same
  rcases came with ⟨⟨f, rfl⟩, nothing⟩ | ⟨e, r, rfl, arrived, rfl⟩
  · refine ⟨es, like, on ▸ said, fun e among => (about _ (met e among)).2,
      fun e among r arrived => ?_, fun referral failed => ?_⟩
    · rw [nothing e among] at arrived
      cases arrived
    · have plain := DirError.isReferral_ofClient f
      rw [Failure.error.inj (Except.error.inj failed)] at plain
      cases plain
  · have here := met e List.mem_cons_self
    have concluded := concludes (value e r)
    simp only [Act.pure_apply, check_apply, verdict_like like, judges e r here arrived]
    refine ⟨[e], ?_, ?_, List.forall_mem_singleton.2 (about _ here).2, ?_,
      fun referral failed => ?_⟩
    · rw [concluded.silent]
      exact like.heard _
    · rw [concluded.silent, on]
      exact said
    · refine List.forall_mem_singleton.2 fun r' arrived' referral => ⟨rfl, ?_⟩
      obtain rfl := Option.some.inj (arrived.symm.trans arrived')
      rw [verdict_referred c₀ ((e.handed_code r).trans referral), concluded.refers,
        (about _ here).1]
    · rcases concluded.passes _ _ _ _ failed with judged | plain
      · exact verdict_origin judged
      · cases plain

/-- A single request about an entry, and what its response comes to. -/
theorem request_converses {dn : String} {r : Request} (single : r.isSearch = false)
    (about : c₀.targetOf r = dn) (meets : P r)
    {next : ServerReply × Except DirError Unit → Act κ LdapDirContext β}
    (concludes : ∀ reply, Concludes c₀ fun verdict => next (reply, verdict)) :
    Conversing c₀ P (request dn r >>= next) := by
  simp only [request, bind_assoc, pure_bind]
  refine Conversing.withSelf fun c like => onLink_converses like fun k on => ?_
  rw [like.patience]
  refine judged_converses on (Client.exchange_asks _ _ single) ?_ ?_ concludes
  · rintro _ rfl
    exact ⟨about, meets⟩
  · rintro e result asks arrived
    have alone : e.sent.request.isSearch = false := by rw [asks, single]
    rcases Client.heard_eq alone with ⟨-, nothing⟩ | ⟨-, arrived'⟩
    · rw [nothing] at arrived
      cases arrived
    · obtain rfl := Option.some.inj (arrived.symm.trans arrived')
      simp only [Exchange.handed, alone, Bool.false_eq_true, if_false]

/-- Failing with the verdict, and otherwise going on without a word. -/
theorem demand_concludes {rest : Act κ LdapDirContext α} (silent : ∀ c w, (rest c w).2 = (c, w))
    (plain : ∀ c w e, (rest c w).1 = .error (.error e) → e.isReferral = false) :
    Concludes c₀ fun verdict => do demand verdict; rest where
  silent verdict c w := by
    cases verdict with
    | ok _ => exact silent c w
    | error e => rfl
  refers urls target c w := rfl
  passes verdict c w e failed := by
    cases verdict with
    | ok _ => exact .inr (plain c w e failed)
    | error e' => exact .inl (congrArg Except.error (Failure.error.inj (Except.error.inj failed)))

theorem demand_alone_concludes :
    Concludes c₀ (demand : Except DirError Unit → Act κ LdapDirContext Unit) where
  silent verdict c w := by cases verdict <;> rfl
  refers urls target c w := rfl
  passes verdict c w e failed := by
    cases verdict with
    | ok _ => cases failed
    | error e' => exact .inl (congrArg Except.error (Failure.error.inj (Except.error.inj failed)))

theorem send_converses {dn : String} {r : Request} (single : r.isSearch = false)
    (about : c₀.targetOf r = dn) (meets : P r) : Conversing c₀ P (send dn r : Act κ _ _) :=
  request_converses single about meets fun _ => demand_alone_concludes

/-- An entry that is not there counts as removed; a referral does not. -/
theorem deleteEntry_converses {dn : String} (meets : P (.delete dn)) :
    Conversing c₀ P (deleteEntry dn : Act κ _ _) := by
  have demands : Concludes c₀ (demand : _ → Act κ LdapDirContext Unit) := demand_alone_concludes
  refine request_converses rfl rfl meets fun _ => ⟨?_, fun urls target c w => ?_, ?_⟩
  · intro verdict c w
    dsimp only
    split
    · rfl
    · exact demands.silent verdict c w
  · unfold ReferralOrigin.error
    split <;> rfl
  · intro verdict c w e failed
    dsimp only at failed
    split at failed
    · cases failed
    · exact demands.passes verdict c w e failed

theorem extendedOperation_converses (r : ExtendedRequest) :
    Conversing c₀ (fun r => r.Names []) (extendedOperation r : Act κ _ _) := by
  refine Conversing.withSelf fun c like => ?_
  have base : c₀.targetOf (.extended r.oid r.value) = c.base := by
    rw [like]
    rfl
  refine request_converses rfl base ?_ fun _ =>
    demand_concludes (fun _ _ => rfl) fun _ _ _ failed => by cases failed
  rfl

theorem readEntry_converses {dn : String} {names : List String}
    (meets : ∀ r : SearchRequest, r.base = dn → r.scope = .object → r.attributes = names →
      P (.search r)) : Conversing c₀ P (readEntry dn names : Act κ _ _) := by
  refine Conversing.withSelf fun c like => onLink_converses like fun k on => ?_
  rw [like.patience]
  refine judged_converses on (Client.searchAll_asks _ _ _) ?_ ?_ fun found => ?_
  · rintro _ ⟨tree, rfl⟩
    exact ⟨rfl, meets _ rfl rfl rfl⟩
  · rintro e r ⟨tree, asks⟩ -
    simp only [Exchange.handed, asks, Request.isSearch, if_true]
  · obtain ⟨messages, result⟩ := found
    dsimp only
    cases Client.entries messages with
    | cons e rest => exact demand_concludes (fun _ _ => rfl) fun _ _ _ failed => by cases failed
    | nil =>
        refine demand_concludes (fun _ _ => rfl) fun _ _ e failed => ?_
        obtain rfl := Failure.error.inj (Except.error.inj failed)
        rfl

/-! ### Operations -/

/-- A search from the one entry that an operation is about. -/
theorem means_search {c : LdapDirContext} (like : Like c₀ c) {op : Op} {name : String}
    (one : op.names = [name]) {r : SearchRequest} (base : r.base = c.resolve name) :
    c₀.Means op (.search r) := by
  refine .inl ?_
  rw [targets, one, List.map_singleton, ← like.resolve, ← base]
  rfl

theorem schemaDn_converses {dn : String} (entry : ∀ r : SearchRequest, r.base = dn → P (.search r))
    (schema : ∀ r : Request, r.ReadsSchema → P r) :
    Conversing c₀ P (schemaDn dn : Act κ _ _) := by
  refine (readEntry_converses fun r base _ _ => entry r base).bind fun _ => ?_
  split
  · exact .ret _
  · refine (readEntry_converses fun r base scope names => ?_).bind fun _ => .ret _
    exact schema (.search r) ⟨scope, .inl ⟨base, names⟩⟩

theorem bind_converses (name : String) (attrs : Attributes) :
    Conversing c₀ (fun r => r.Names [c₀.resolve name]) (bind name attrs : Act κ _ _) := by
  refine Conversing.withSelf fun c like => send_converses rfl rfl ?_
  rw [← like.resolve]
  rfl

theorem unbind_converses (name : String) :
    Conversing c₀ (fun r => r.Names [c₀.resolve name]) (unbind name : Act κ _ _) := by
  refine Conversing.withSelf fun c like => deleteEntry_converses ?_
  rw [← like.resolve]
  rfl

theorem rename_converses (name newName : String) :
    Conversing c₀ (fun r => r.Names [c₀.resolve name, c₀.resolve newName])
      (rename name newName : Act κ _ _) := by
  refine Conversing.withSelf fun c like => ?_
  rw [← like.resolve, ← like.resolve]
  generalize c.resolve name = old, c.resolve newName = new
  have names : (renameRequest old new).Names [old, new] := ⟨new, rfl, rfl⟩
  unfold renameRequest at names ⊢
  exact send_converses rfl rfl names

theorem modify_converses (name : String) (mods : List Modification) :
    Conversing c₀ (fun r => r.Names [c₀.resolve name]) (modify name mods : Act κ _ _) := by
  unfold modify
  split
  · exact .ret _
  · refine Conversing.withSelf fun c like => onLink_converses like fun k _ => ?_
    dsimp only
    split
    · exact .fail rfl
    · refine send_converses rfl rfl ?_
      rw [← like.resolve]
      rfl

theorem getAttributes_converses (name : String) (ids : Option (List String)) :
    Conversing c₀ (c₀.Means (.getAttributes name ids)) (getAttributes name ids : Act κ _ _) := by
  refine Conversing.withSelf fun c like => ?_
  exact (readEntry_converses fun r base _ _ => means_search like rfl base).bind fun _ => .ret _

theorem getSchemaClassDefinition_converses (name : String) :
    Conversing c₀ (c₀.Means (.getSchemaClassDefinition name))
      (getSchemaClassDefinition name : Act κ _ _) := by
  refine Conversing.withSelf fun c like => ?_
  refine (readEntry_converses fun r base _ _ => means_search like rfl base).bind fun _ => ?_
  refine (schemaDn_converses (fun r base => means_search like rfl base)
    fun r reads => .inr ⟨rfl, reads⟩).bind fun _ => ?_
  -- Where the definitions are was said in a reply, so nothing is known of that name.
  refine (readEntry_converses fun r _ scope names => ?_).bind fun _ => .ret _
  exact .inr ⟨rfl, scope, .inr names⟩

/-- Handing out a context says nothing. -/
theorem child_converses (base : String) (controls : List Control) :
    Conversing c₀ P (child base controls : Act κ _ _) := by
  refine Conversing.quiet (fun c w like => ?_) (fun c w _ => ?_) fun c w f failed => ?_
  · rw [child_apply]
    exact like
  · rw [child_apply]
    exact Network.seen_along (f := fun l => { l with shares := l.shares + 1 }) (fun _ => rfl) _
  · rw [child_apply] at failed
    cases failed

theorem lookup_converses (name : String) :
    Conversing c₀ (c₀.Means (.lookup name)) (lookup name : Act κ _ _) := by
  refine Conversing.withSelf fun c like => ?_
  refine (readEntry_converses fun r base _ _ => means_search like rfl base).bind fun _ => ?_
  exact Conversing.withSelf fun _ _ => child_converses _ _

theorem createSubcontext_converses (name : String) (attrs : Attributes) :
    Conversing c₀ (fun r => r.Names [c₀.resolve name])
      (createSubcontext name attrs : Act κ _ _) :=
  (bind_converses name attrs).bind fun _ => Conversing.withSelf fun _ _ => child_converses _ _

theorem getSchema_converses (name : String) :
    Conversing c₀ (c₀.Means (.getSchema name)) (getSchema name : Act κ _ _) := by
  refine Conversing.withSelf fun c like => ?_
  refine (schemaDn_converses (fun r base => means_search like rfl base)
    fun r reads => .inr ⟨rfl, reads⟩).bind fun _ => ?_
  exact Conversing.withSelf fun _ _ => child_converses _ _

theorem newInstance_converses (controls : List Control) :
    Conversing c₀ P (newInstance controls : Act κ _ _) :=
  Conversing.withSelf fun _ like => onLink_converses like fun _ _ => child_converses _ _

/-- Operations that hear nothing more when they are over, and neither concern their context alone
nor open a connection. -/
def isConversation : Op → Bool
  | .list _ | .search .. | .searchWithArgs .. | .searchByAttributes .. | .reconnect _ => false
  | op => !isLocal op

/-- The requests of an operation that name what it is about. -/
theorem Conversing.means {x : Act κ LdapDirContext α} (op : Op)
    (converses : Conversing c₀ (fun r => r.Names (c₀.targets op)) x) :
    Conversing c₀ (c₀.Means op) x :=
  converses.mono fun _ => .inl

theorem done_converses {x : Act κ LdapDirContext Unit} {op : Op}
    (converses : Conversing c₀ (fun r => r.Names (c₀.targets op)) x) :
    Conversing c₀ (c₀.Means op) (do x; return (Reply.done : Reply LdapDirContext SearchCursor)) :=
  (converses.bind fun _ => .ret _).means

/-- **Conversations.**  Every operation but a search, a listing and a reconnect comes to what its
conversation says, and asks for nothing but what it is about. -/
theorem perform_converses {op : Op} (converses : isConversation op = true) :
    Conversing c₀ (c₀.Means op) (perform op : Act κ _ _) := by
  cases op with
  | bind name attrs => exact done_converses (bind_converses name attrs)
  | rebind name attrs =>
      exact done_converses ((unbind_converses name).bind fun _ => bind_converses name attrs)
  | unbind name => exact done_converses (unbind_converses name)
  | rename name newName => exact done_converses (rename_converses name newName)
  | modify name mods => exact done_converses (modify_converses name mods)
  | destroySubcontext name => exact done_converses (unbind_converses name)
  | getAttributes name ids => exact (getAttributes_converses name ids).map _
  | getSchemaClassDefinition name => exact (getSchemaClassDefinition_converses name).map _
  | extendedOperation r => exact .means _ ((extendedOperation_converses r).map _)
  | lookup name => exact (lookup_converses name).map _
  | createSubcontext name attrs =>
      exact .means _ ((createSubcontext_converses name attrs).map _)
  | getSchema name => exact (getSchema_converses name).map _
  | newInstance controls => exact (newInstance_converses controls).map _
  | _ => cases converses

end LdapDirContext

end ManagedLdap
