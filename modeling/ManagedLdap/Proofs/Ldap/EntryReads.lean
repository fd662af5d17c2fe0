/-
# ManagedLdap.Proofs.Ldap.EntryReads -- what reading one entry asks, and what comes of the answer

Whatever is read of a single entry is read by a search for that entry alone: its attributes, the
place of its schema, the definitions of the schema.  One request goes out, and everything else
depends on its reply (`readEntry_apply`): a connection that ends first, a result that is no
success, and no entry at all are errors, and otherwise the first entry is taken.
-/
import ManagedLdap.Proofs.Filter.Reading

namespace ManagedLdap

set_option autoImplicit false

/-- A search that is read at once is one request, and depends on its reply only. -/
theorem Client.searchAll_apply {κ σ : Type} (link : LinkId) (patience : Option Nat)
    (controls : List Control) (spec : SearchSpec) {tree : Filter.Tree}
    (parsed : Filter.parse? spec.filter = some tree) (s : σ) (w : World κ) :
    searchAll link patience controls spec s w =
      if w.network.isOpen link then
        (.ok (match pageEnd (w.network.nextReply link) patience with
          | .broken e => .error e
          | .result r =>
              .ok ((w.network.reader link).collect (w.network.nextReply link).messages r)), s,
          w.exchange link ⟨.search (spec.toRequest tree), controls⟩ ServerReply.closesSearch)
      else (.ok (.error .sendOnClosed), s, w) := by
  simp only [searchAll, startSearch, parsed, Act.bind_apply, Option.isSome_none, Bool.false_and,
    Bool.false_eq_true, if_false, Act.network_apply, requestPage_apply]
  cases w.network.isOpen link with
  | false => rfl
  | true =>
      generalize w.network.nextReply link = reply
      simp only [if_true]
      cases ends : pageEnd reply patience with
      | broken e => rfl
      | result r =>
          have whole := (Bool.or_eq_false_iff.1 (pageEnd_whole ends)).1
          simp only [whole, Bool.false_eq_true, if_false]
          rfl

/-- The server of a connection listens until it has given these replies, one after the other, and
the messages are read by this library. -/
def Network.Awaits (n : Network) (k : LinkId) (library : Library) (replies : List ServerReply) :
    Prop :=
  ∃ l, n.link? k = some l ∧ l.library = library ∧ l.script = replies ∧
    (replies ≠ [] → l.isOpen = true) ∧ ∀ r ∈ replies.dropLast, r.hangUp = false

namespace LdapDirContext

variable {κ : Type}

/-- The request that reads attributes of one entry. -/
def entryRequest (c : LdapDirContext) (dn : String) (names : List String) : SentRequest :=
  ⟨.search
    { base := dn
      scope := .object
      sizeLimit := 0
      timeLimit := 0
      typesOnly := false
      filter := .present "objectClass"
      attributes := names }, c.requestControls⟩

/-- What reading an entry makes of a reply. -/
def entryOf (c : LdapDirContext) (l : Library) (dn : String) (reply : ServerReply) :
    Except Failure SearchEntry :=
  match Client.pageEnd reply c.patience with
  | .broken e => .error (.error (.ofClient e))
  | .result r =>
      match c.verdict (l.collect reply.messages r).2 dn, Client.entries reply.messages with
      | .error e, _ => .error (.error e)
      | .ok _, [] => .error (.error (.nameNotFound dn))
      | .ok _, e :: _ => .ok (l.construct e)

/-- A context after a reply: it keeps the controls of the result. -/
def afterReply (c : LdapDirContext) (reply : ServerReply) : LdapDirContext :=
  match Client.pageEnd reply c.patience with
  | .broken _ => c
  | .result r => { c with responseControls := r.controls }

/-- **Reading one entry** is one request, and depends on its reply only. -/
theorem readEntry_apply {c : LdapDirContext} {link : LinkId} (held : c.connection = some link)
    (dn : String) (names : List String) (w : World κ) :
    readEntry dn names c w =
      if w.network.isOpen link then
        (c.entryOf (w.network.reader link) dn (w.network.nextReply link),
          c.afterReply (w.network.nextReply link),
          w.exchange link (c.entryRequest dn names) ServerReply.closesSearch)
      else (.error (.error (.ofClient .sendOnClosed)), c, w) := by
  have asked := Client.searchAll_apply link c.patience c.requestControls
    { base := dn, scope := .object, filter := Filter.matchAll, attributes := names }
    Filter.parse?_matchAll c w
  simp only [readEntry, linkOf, held, Client.orFail, Act.bind_apply, Act.self_apply,
    Act.pure_apply, asked]
  cases w.network.isOpen link with
  | false => rfl
  | true =>
      have reads : (w.exchange link (c.entryRequest dn names)
          ServerReply.closesSearch).network.reader link = w.network.reader link := by
        rw [World.exchange_network, Network.reader_exchanged]
      simp only [if_true, entryOf, afterReply]
      generalize w.network.nextReply link = reply
      cases Client.pageEnd reply c.patience with
      | broken e => rfl
      | result r =>
          generalize library : w.network.reader link = l at reads
          have judged : ({ c with responseControls := r.controls }).verdict
              (l.collect reply.messages r).2 dn = c.verdict (l.collect reply.messages r).2 dn := rfl
          simp only [Act.pure_apply, check, Act.bind_apply, Act.update_apply, Act.self_apply,
            l.collect_controls, judged, l.collect_entries]
          cases c.verdict (l.collect reply.messages r).2 dn with
          | error e => rfl
          | ok _ =>
              cases Client.entries reply.messages with
              | nil => rfl
              | cons e later =>
                  simp only [demand, Act.bind_apply, Act.pure_apply, Act.network_apply]
                  exact congrArg (fun l => (Except.ok (l.construct e), _, _)) reads

/-- An entry that the next reply holds is read, and the reply after it is the next one then. -/
theorem readEntry_answered {c : LdapDirContext} {link : LinkId} (held : c.connection = some link)
    {w : World κ} {library : Library} {reply : ServerReply} {later : List ServerReply}
    (awaits : w.network.Awaits link library (reply :: later)) {dn : String} {entry : SearchEntry}
    (read : c.entryOf library dn reply = .ok entry) (names : List String) :
    ∃ controls w', readEntry dn names c w =
      (.ok entry, { c with responseControls := controls }, w') ∧
        w'.network.Awaits link library later := by
  obtain ⟨l, found, rfl, script, listens, stays⟩ := awaits
  have opened : w.network.isOpen link = true := by
    rw [Network.isOpen, found]
    exact listens (List.cons_ne_nil _ _)
  have next : w.network.nextReply link = reply := by
    rw [Network.nextReply, found]
    simp only [script, List.headD_cons]
  have reader : w.network.reader link = l.library := by rw [Network.reader, found]
  obtain ⟨r, ends⟩ : ∃ r, Client.pageEnd reply c.patience = .result r := by
    unfold entryOf at read
    cases ends : Client.pageEnd reply c.patience with
    | broken e =>
        rw [ends] at read
        cases read
    | result r => exact ⟨r, rfl⟩
  refine ⟨r.controls, w.exchange link (c.entryRequest dn names) ServerReply.closesSearch, ?_, ?_⟩
  · rw [readEntry_apply held, if_pos opened, next, reader, read, afterReply, ends]
  · have exchanged : (w.exchange link (c.entryRequest dn names)
          ServerReply.closesSearch).network.link? link =
        some { l with sent := l.sent ++ [c.entryRequest dn names], script := l.script.drop 1
                      isOpen := l.isOpen && !reply.closesSearch } := by
      rw [World.exchange_network, next, Network.send, Network.takeReply,
        Network.modifyLink_modifyLink, Network.link?_modifyLink, if_pos rfl, found]
      rfl
    refine ⟨_, exchanged, rfl, ?_, fun further => ?_, fun r' among => stays r' ?_⟩
    · simp only [script, List.drop_one, List.tail_cons]
    · have on : reply.hangUp = false := stays reply (by
        rw [List.dropLast_cons_of_ne_nil further]
        exact List.mem_cons_self)
      have whole := Client.pageEnd_whole ends
      simp only [ServerReply.closesSearch, listens (List.cons_ne_nil _ _), on, whole, Bool.or_self,
        Bool.not_false, Bool.and_self]
    · cases later with
      | nil => cases among
      | cons first rest =>
          rw [List.dropLast_cons_of_ne_nil (List.cons_ne_nil _ _)]
          exact List.mem_cons_of_mem _ among

/-- The request goes out over the connection of the context, if its server listens, and nothing else
does over any connection. -/
theorem sentOver_readEntry (dn : String) (names : List String) (c : LdapDirContext) (w : World κ)
    (k : LinkId) :
    (readEntry dn names c w).2.2.network.sentOver k = w.network.sentOver k ++
      if c.connection = some k ∧ w.network.isOpen k = true then [c.entryRequest dn names]
      else [] := by
  cases held : c.connection with
  | none => simp [readEntry_closed held]
  | some link =>
      rw [readEntry_apply held]
      cases listens : w.network.isOpen link with
      | true =>
          by_cases here : link = k
          · subst here
            simp [Network.sentOver_exchanged _ _ _ _ _ listens, listens]
          · simp [Network.sentOver_exchanged _ _ _ _ _ listens, here]
      | false =>
          by_cases here : link = k
          · subst here
            simp [listens]
          · simp [here]

/-- The attributes of an entry are those of the entry that is read. -/
theorem getAttributes_eq (name : String) (ids : Option (List String)) (c : LdapDirContext)
    (w : World κ) :
    getAttributes name ids c w =
      let y := readEntry (c.resolve name) (ids.getD ["*"]) c w
      (y.1.map SearchEntry.attributes, y.2) := by
  simp only [getAttributes, Act.bind_apply, Act.self_apply]
  rcases readEntry (c.resolve name) (ids.getD ["*"]) c w with ⟨_ | _, _, _⟩ <;> rfl

/-- A reply that holds one entry. -/
def sending (raw : RawEntry) : ServerReply := { messages := [.entry raw] }

/-- Such a reply is never late. -/
theorem pageEnd_sending (raw : RawEntry) (patience : Option Nat) :
    Client.pageEnd (sending raw) patience = .result {} := by
  cases patience <;> simp [Client.pageEnd, sending, ServerReply.isLate, ServerReply.response]

/-- A host with one connection, whose server has these replies to give. -/
def answering (replies : List ServerReply) : World Unit :=
  { network := { Network.loopback [] with links := [⟨"h:389", replies, [], true, 1, .standard⟩] } }

theorem answering_awaits {replies : List ServerReply} (stay : ∀ r ∈ replies, r.hangUp = false) :
    (answering replies).network.Awaits 0 .standard replies :=
  ⟨_, rfl, rfl, rfl, fun _ => rfl, fun r among => stay r (List.dropLast_subset _ among)⟩

end LdapDirContext

end ManagedLdap
