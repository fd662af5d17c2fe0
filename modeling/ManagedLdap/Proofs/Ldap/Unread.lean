/-
# ManagedLdap.Proofs.Ldap.Unread -- what a search stream holds that nobody has read

What a stream has not delivered yet is fixed by the messages that arrived and the replies the
server will give (`SearchStream.unread`): the messages of all pages, and how the search ends.
A cursor over the stream owes its reader the entries among them and then, once, the error of
the end, if there is one (`SearchCursor.owed`).

`fetch_gets` says that reading on gets the first thing owed and leaves the rest owed, through
references, intermediate messages and however many pages there are before the next entry.
-/
import ManagedLdap.Proofs.Ldap.Calls

namespace ManagedLdap

set_option autoImplicit false

/-! ## What a stream still holds -/

/-- How a search ends for its reader. -/
inductive SearchEnd where
  | result (r : LdapResult)
  | failed (e : ClientError)
  /-- The control that should say whether there is another page cannot be read. -/
  | unreadable

namespace Client

/-- The messages of a search and its end, read from the messages and the ending of the present
page on, when these replies are to come.  A page that the library marks as not the last one is
followed by another one; where no reply is left, that one is empty and the last. -/
def readThrough (mark : LdapResult → PageMark) (patience : Option Nat) (isOpen : Bool) :
    List ServerReply → List SearchMessage → PageEnd → List SearchMessage × SearchEnd
  | _, messages, .broken e => (messages, .failed e)
  | replies, messages, .result r =>
      match mark r with
      | .last => (messages, .result r)
      | .unreadable => (messages, .unreadable)
      | .more _ =>
          if isOpen then
            match replies with
            | [] => (messages, .result {})
            | reply :: later =>
                let rest := readThrough mark patience (!reply.closesSearch) later
                  (if reply.drop then [] else reply.messages) (pageEnd reply patience)
                (messages ++ rest.1, rest.2)
          else (messages, .failed .sendOnClosed)

/-- The answer of a server that has no reply left is empty and comes at once. -/
theorem pageEnd_default (patience : Option Nat) : pageEnd {} patience = .result {} := by
  cases patience <;> simp [pageEnd, ServerReply.isLate, ServerReply.response]

/-- A page that ends with a result came in whole. -/
theorem pageEnd_whole {reply : ServerReply} {patience : Option Nat} {r : LdapResult}
    (ends : pageEnd reply patience = .result r) : (reply.drop || reply.cut) = false := by
  unfold pageEnd at ends
  split at ends
  · cases ends
  · split at ends
    · cases ends
    · next whole => exact Bool.eq_false_iff.2 whole

/-- Such an answer is the last page. -/
@[simp] theorem Search.mark_default (s : Search) : s.mark {} = .last := by
  unfold Search.mark
  split
  · exact s.library.pageMark_last _ (List.forall_mem_nil _)
  · rfl

end Client

namespace Network

/-- The replies a connection will still give. -/
def script (n : Network) (k : LinkId) : List ServerReply :=
  match n.link? k with
  | some l => l.script
  | none => []

theorem repliesLeft_eq (n : Network) (k : LinkId) : n.repliesLeft k = (n.script k).length := by
  unfold repliesLeft script
  cases n.link? k <;> rfl

theorem nextReply_eq (n : Network) (k : LinkId) : n.nextReply k = (n.script k).headD {} := by
  unfold nextReply script
  cases n.link? k <;> rfl

/-- After a request that is answered one reply less is left, and the connection may be closed. -/
theorem script_exchanged (n : Network) (k : LinkId) (r : SentRequest) (closes : Bool) :
    ((n.send k r).takeReply k closes).script k = (n.script k).drop 1 := by
  unfold script
  rw [send, takeReply, modifyLink_modifyLink, link?_modifyLink, if_pos rfl]
  cases n.link? k <;> rfl

theorem reader_exchanged (n : Network) (k : LinkId) (r : SentRequest) (closes : Bool) :
    ((n.send k r).takeReply k closes).reader k = n.reader k := by
  unfold reader
  rw [send, takeReply, modifyLink_modifyLink, link?_modifyLink, if_pos rfl]
  cases n.link? k <;> rfl

theorem isOpen_exchanged (n : Network) (k : LinkId) (r : SentRequest) (closes : Bool) :
    ((n.send k r).takeReply k closes).isOpen k = (n.isOpen k && !closes) := by
  unfold isOpen
  rw [send, takeReply, modifyLink_modifyLink, link?_modifyLink, if_pos rfl]
  cases n.link? k <;> rfl

end Network

namespace Client.SearchStream

variable {κ : Type}

/-- The messages a stream has not delivered, over all its pages, and how it ends. -/
def unread (s : SearchStream) (n : Network) : List SearchMessage × SearchEnd :=
  readThrough s.mark s.patience (n.isOpen s.link) (n.script s.link) s.messages s.ending

/-- The messages of the present page come first; nothing after them depends on them. -/
theorem unread_messages (s : SearchStream) (n : Network) :
    s.unread n = (s.messages ++ ({ s with messages := [] }.unread n).1,
      ({ s with messages := [] }.unread n).2) := by
  simp only [unread]
  rw [readThrough.eq_def, readThrough.eq_def _ _ _ _ []]
  cases s.ending with
  | broken e => simp
  | result r =>
      dsimp only
      split
      · simp
      · simp
      · split
        · split <;> simp
        · simp

theorem unread_broken {s : SearchStream} {n : Network} {e : ClientError}
    (ends : s.ending = .broken e) : s.unread n = (s.messages, .failed e) := by
  rw [unread, ends, readThrough]

theorem unread_last {s : SearchStream} {n : Network} {r : LdapResult}
    (ends : s.ending = .result r) (last : s.mark r = .last) :
    s.unread n = (s.messages, .result r) := by
  rw [unread, ends, readThrough.eq_def]
  simp only [last]

theorem unread_unreadable {s : SearchStream} {n : Network} {r : LdapResult}
    (ends : s.ending = .result r) (unreadable : s.mark r = .unreadable) :
    s.unread n = (s.messages, .unreadable) := by
  rw [unread, ends, readThrough.eq_def]
  simp only [unreadable]

theorem unread_closed {s : SearchStream} {n : Network} {r : LdapResult} {cookie : Octets}
    (ends : s.ending = .result r) (more : s.mark r = .more cookie)
    (closed : n.isOpen s.link = false) : s.unread n = (s.messages, .failed .sendOnClosed) := by
  rw [unread, ends, closed, readThrough.eq_def]
  simp only [more, Bool.false_eq_true, if_false]

/-- Without a connection there is no further page. -/
theorem nextPage_closed {s : SearchStream} {w : World κ} {σ : Type} (cookie : Octets) (t : σ)
    (closed : w.network.isOpen s.link = false) :
    (nextPage s cookie : Act κ σ _) t w = (.ok (.error .sendOnClosed), t, w) := by
  simp only [nextPage, requestPage, Act.bind_apply, Act.network_apply, closed,
    Bool.false_eq_true, if_false, Act.pure_apply]

/-- The next page holds what the present one leaves of the stream, and takes a reply away.  Where
no reply is left it is empty and the last. -/
theorem nextPage_open {s : SearchStream} {w : World κ} {σ : Type} {r : LdapResult}
    {cookie : Octets} (t : σ) (ends : s.ending = .result r) (more : s.mark r = .more cookie)
    (opened : w.network.isOpen s.link = true) :
    ∃ next w', (nextPage s cookie : Act κ σ _) t w = (.ok (.ok next), t, w') ∧
      next.toSearch = s.toSearch ∧
      s.unread w.network =
        (s.messages ++ (next.unread w'.network).1, (next.unread w'.network).2) ∧
      w'.network.repliesLeft s.link = w.network.repliesLeft s.link - 1 ∧
      (w.network.repliesLeft s.link = 0 → next.messages = [] ∧ next.ending = .result {}) := by
  let reply := w.network.nextReply s.link
  let w' := w.exchange s.link (s.page cookie) ServerReply.closesSearch
  let next : SearchStream :=
    { toSearch := s.toSearch
      messages := if reply.drop then [] else reply.messages
      ending := pageEnd reply s.patience
      latest := s.library.latest s.first (w.network.sentCount s.link) }
  refine ⟨next, w', ?_, rfl, ?_, ?_, ?_⟩
  · simp only [nextPage, requestPage, Act.bind_apply, Act.network_apply, opened, if_true,
      Act.updateWorld_apply, Act.pure_apply]
    rfl
  · have later : w'.network.script s.link = (w.network.script s.link).drop 1 :=
      w.network.script_exchanged ..
    have still : w'.network.isOpen s.link = !reply.closesSearch := by
      rw [w.exchange_network, w.network.isOpen_exchanged, opened, Bool.true_and]
    rw [unread, ends, opened, readThrough.eq_def, unread]
    simp only [more, if_true, next, later, still]
    cases left : w.network.script s.link with
    | nil =>
        have last : reply = {} := by
          simp only [reply, w.network.nextReply_eq, left, List.headD_nil]
        rw [last, pageEnd_default, readThrough.eq_def]
        simp
    | cons first rest =>
        have first : reply = first := by
          simp only [reply, w.network.nextReply_eq, left, List.headD_cons]
        simp only [first, List.drop_succ_cons, List.drop_zero]
  · rw [Network.repliesLeft_eq, Network.repliesLeft_eq, w.exchange_network,
      w.network.script_exchanged, List.length_drop]
  · intro none
    rw [Network.repliesLeft_eq, List.length_eq_zero_iff] at none
    have last : reply = {} := by
      simp only [reply, w.network.nextReply_eq, none, List.headD_nil]
    simp [next, last, pageEnd_default]

end Client.SearchStream

namespace SearchCursor

variable {κ : Type}

/-! ## Reading as far as an entry -/

theorem takeEntry_some {messages rest : List SearchMessage} {urls : List String} {e : RawEntry}
    (found : takeEntry messages = (urls, some (e, rest))) :
    Client.entries messages = e :: Client.entries rest ∧
      Client.references messages = urls ++ Client.references rest := by
  induction messages generalizing urls with
  | nil => cases found
  | cons m messages ih =>
      cases m with
      | entry e' =>
          cases found
          exact ⟨rfl, rfl⟩
      | reference more =>
          simp only [takeEntry] at found
          obtain ⟨rfl, later⟩ := Prod.mk.inj found
          obtain ⟨entries, references⟩ := ih (Prod.ext rfl later)
          refine ⟨entries, ?_⟩
          simp only [Client.references, List.flatMap_cons, List.append_assoc] at references ⊢
          rw [references]
      | intermediate text => exact ih found

theorem takeEntry_none {messages : List SearchMessage} {urls : List String}
    (found : takeEntry messages = (urls, none)) :
    Client.entries messages = [] ∧ Client.references messages = urls := by
  induction messages generalizing urls with
  | nil =>
      cases found
      exact ⟨rfl, rfl⟩
  | cons m messages ih =>
      cases m with
      | entry e' => cases found
      | reference more =>
          simp only [takeEntry] at found
          obtain ⟨rfl, later⟩ := Prod.mk.inj found
          obtain ⟨entries, references⟩ := ih (Prod.ext rfl later)
          refine ⟨entries, ?_⟩
          simp only [Client.references, List.flatMap_cons] at references ⊢
          rw [references]
      | intermediate text => exact ih found

theorem entries_append (messages more : List SearchMessage) :
    Client.entries (messages ++ more) = Client.entries messages ++ Client.entries more :=
  List.filterMap_append

theorem references_append (messages more : List SearchMessage) :
    Client.references (messages ++ more) =
      Client.references messages ++ Client.references more :=
  List.flatMap_append

/-- Passing references changes nothing but the references kept. -/
theorem keepReferences_eq (c : SearchCursor) (urls : List String) :
    c.keepReferences urls = { c with references := (c.keepReferences urls).references } := by
  unfold SearchCursor.keepReferences
  split <;> rfl

@[simp] theorem keepReferences_nil (c : SearchCursor) : c.keepReferences [] = c := by
  unfold SearchCursor.keepReferences
  split
  · rw [List.append_nil]
  · rfl

theorem keepReferences_append (c : SearchCursor) (urls more : List String) :
    c.keepReferences (urls ++ more) = (c.keepReferences urls).keepReferences more := by
  unfold SearchCursor.keepReferences
  split
  · rw [List.append_assoc]
  · rfl

/-! ## What a cursor owes -/

/-- What a reader has to get: these results, and after them this failure, if there is one. -/
structure Owed where
  entries : List SearchResult
  error : Option Failure

namespace Owed

/-- What a reader who asks for an entry gets. -/
def first : Owed → Except Failure (Option SearchResult)
  | ⟨e :: _, _⟩ => .ok (some e)
  | ⟨[], some f⟩ => .error f
  | ⟨[], none⟩ => .ok none

/-- What is owed after that.  A failure is reported once; only a panic leaves the stream where
it was. -/
def rest : Owed → Owed
  | ⟨_ :: later, f⟩ => ⟨later, f⟩
  | ⟨[], some .panic⟩ => ⟨[], some .panic⟩
  | ⟨[], _⟩ => ⟨[], none⟩

end Owed

/-- The result of an entry, as it is read. -/
def found (c : SearchCursor) (l : Library) (e : RawEntry) : SearchResult :=
  (l.construct e).result c.base

/-- The failure a cursor reports at an end, when it passes these references before it. -/
def terminal (c : SearchCursor) (urls : List String) : SearchEnd → Option Failure
  | .result r => ((c.keepReferences urls).verdict r).map .error
  | .failed e => some (.error (.ofClient e))
  | .unreadable => some .panic

/-- What a cursor owes for messages it has not read and the end after them. -/
def owedFor (c : SearchCursor) (l : Library) (unread : List SearchMessage × SearchEnd) : Owed :=
  ⟨(Client.entries unread.1).map (c.found l), c.terminal (Client.references unread.1) unread.2⟩

/-- What a cursor owes: the entry that was looked at, and what its stream holds. -/
def owed (c : SearchCursor) (n : Network) : Owed :=
  match c.stream with
  | none => ⟨c.peeked.toList, none⟩
  | some s =>
      ⟨c.peeked.toList ++ (c.owedFor s.library (s.unread n)).entries,
        (c.owedFor s.library (s.unread n)).error⟩

theorem owed_running {c : SearchCursor} {s : Client.SearchStream} (n : Network)
    (running : c.stream = some s) (idle : c.peeked = none) :
    c.owed n = c.owedFor s.library (s.unread n) := by
  rw [owed, running, idle]
  rfl

theorem owed_spent {c : SearchCursor} (n : Network) (spent : c.stream = none)
    (idle : c.peeked = none) : c.owed n = ⟨[], none⟩ := by
  rw [owed, spent, idle]
  rfl

theorem found_keepReferences (c : SearchCursor) (urls : List String) :
    (c.keepReferences urls).found = c.found := by
  funext l e
  rw [found, found, keepReferences_eq]

theorem terminal_append (c : SearchCursor) (urls more : List String) (ending : SearchEnd) :
    c.terminal (urls ++ more) ending = (c.keepReferences urls).terminal more ending := by
  cases ending with
  | result r => rw [terminal, terminal, keepReferences_append]
  | failed e => rfl
  | unreadable => rfl

/-- What is owed past some messages without an entry. -/
theorem owedFor_past {c : SearchCursor} {messages more : List SearchMessage} {urls : List String}
    (l : Library) (ending : SearchEnd) (none : takeEntry messages = (urls, none)) :
    c.owedFor l (messages ++ more, ending) =
      (c.keepReferences urls).owedFor l (more, ending) := by
  obtain ⟨entries, references⟩ := takeEntry_none none
  simp only [owedFor, entries_append, references_append, entries, references, List.nil_append,
    found_keepReferences, terminal_append]

/-- What is owed for messages that begin with an entry, but for references and the like. -/
theorem owedFor_entry {c : SearchCursor} {messages rest more : List SearchMessage}
    {urls : List String} {e : RawEntry} (l : Library) (ending : SearchEnd)
    (first : takeEntry messages = (urls, some (e, rest))) :
    c.owedFor l (messages ++ more, ending) =
      ⟨c.found l e :: ((c.keepReferences urls).owedFor l (rest ++ more, ending)).entries,
        ((c.keepReferences urls).owedFor l (rest ++ more, ending)).error⟩ := by
  obtain ⟨entries, references⟩ := takeEntry_some first
  simp only [owedFor, entries_append, references_append, entries, references, List.cons_append,
    List.map_cons, List.append_assoc, found_keepReferences, terminal_append]

theorem owedFor_result (c : SearchCursor) (l : Library) (r : LdapResult) :
    c.owedFor l ([], .result r) = ⟨[], (c.verdict r).map .error⟩ := by
  rw [owedFor, terminal, Client.references, List.flatMap_nil, keepReferences_nil]
  rfl

/-- What is owed for messages depends neither on the present stream nor on the entry at hand. -/
theorem owedFor_update (c : SearchCursor) (stream : Option Client.SearchStream)
    (peeked : Option SearchResult) (l : Library) (unread : List SearchMessage × SearchEnd) :
    ({ c with stream := stream, peeked := peeked } : SearchCursor).owedFor l unread =
      c.owedFor l unread := by
  obtain ⟨messages, ending⟩ := unread
  cases ending with
  | result r =>
      unfold owedFor terminal SearchCursor.keepReferences
      by_cases surfaced : c.origin.mode = .throw
      · simp only [surfaced, if_true]
        rfl
      · simp only [surfaced, if_false]
        rfl
  | failed e => rfl
  | unreadable => rfl

/-- What is owed once the stream has moved on. -/
theorem owed_advanced {c : SearchCursor} (s : Client.SearchStream) (n : Network)
    (idle : c.peeked = none) :
    ({ c with stream := some s } : SearchCursor).owed n = c.owedFor s.library (s.unread n) := by
  rw [← owedFor_update c (some s) c.peeked]
  exact owed_running n rfl idle

/-- What is owed with an entry at hand, which comes before what the stream holds. -/
theorem owed_peeked {c : SearchCursor} (n : Network) (found : Option SearchResult)
    (idle : c.peeked = none) :
    ({ c with peeked := found } : SearchCursor).owed n =
      ⟨found.toList ++ (c.owed n).entries, (c.owed n).error⟩ := by
  cases running : c.stream with
  | none =>
      rw [owed_spent n running idle, owed]
      simp only [List.append_nil]
  | some s =>
      rw [owed_running n running idle, owed]
      simp only [owedFor_update c (some s) found]

/-! ## Reading on -/

/-- What an attempt to read an entry came to: it got what was owed first, and the cursor owes
the rest.  At the end the stream is gone, unless the attempt panicked. -/
structure Gets (o : Owed) (x : Except Failure (Option SearchResult) × SearchCursor × World κ) :
    Prop where
  outcome : x.1 = o.first
  after : x.2.1.owed x.2.2.network = o.rest
  idle : x.2.1.peeked = none
  gone : o.entries = [] → o.error ≠ some .panic → x.2.1.stream = none

/-- At an end that is no panic the cursor has nothing left. -/
theorem gets_end {error : Option Failure}
    {x : Except Failure (Option SearchResult) × SearchCursor × World κ}
    (calm : error ≠ some .panic) (outcome : x.1 = Owed.first ⟨[], error⟩)
    (idle : x.2.1.peeked = none) (gone : x.2.1.stream = none) : Gets ⟨[], error⟩ x := by
  refine ⟨outcome, ?_, idle, fun _ _ => gone⟩
  rw [owed_spent _ gone idle]
  match error, calm with
  | none, _ => rfl
  | some (.error e), _ => rfl

theorem finish_gets {c : SearchCursor} (r : LdapResult) (w : World κ) (idle : c.peeked = none) :
    Gets ⟨[], (c.verdict r).map .error⟩ (finish r c w) := by
  simp only [finish, Act.bind_apply, Act.self_apply, Act.update_apply]
  cases c.verdict r with
  | none => exact gets_end (by simp) rfl idle rfl
  | some e => exact gets_end (by simp) rfl idle rfl

theorem breakOff_gets {c : SearchCursor} (e : ClientError) (w : World κ)
    (idle : c.peeked = none) :
    Gets ⟨[], some (.error (.ofClient e))⟩ (breakOff e c w) :=
  gets_end (by simp) rfl idle rfl

/-- Reading a page that has another entry. -/
theorem fetchPage_entry {onward : Act κ SearchCursor (Option SearchResult)} {c : SearchCursor}
    {s : Client.SearchStream} {urls : List String} {e : RawEntry} {rest : List SearchMessage}
    (w : World κ) (running : c.stream = some s)
    (taken : takeEntry s.messages = (urls, some (e, rest))) :
    fetchPage onward c w =
      (.ok (some (c.found s.library e)),
        { c.keepReferences urls with stream := some { s with messages := rest } }, w) := by
  simp only [fetchPage, Act.bind_apply, Act.self_apply, running, Act.update_apply, taken]
  rfl

/-- What is left to do at the end of a page. -/
def endPage (onward : Act κ SearchCursor (Option SearchResult)) (s : Client.SearchStream) :
    Act κ SearchCursor (Option SearchResult) :=
  match s.ending with
  | .broken e => breakOff e
  | .result r =>
      match s.mark r with
      | .last => finish r
      | .unreadable => Act.failWith .panic
      | .more cookie => do
          match ← Client.nextPage s cookie with
          | .error e => breakOff e
          | .ok next =>
              Act.update fun c => { c with stream := some next }
              onward

/-- Reading a page that has none: the ending of the page decides. -/
theorem fetchPage_end {onward : Act κ SearchCursor (Option SearchResult)} {c : SearchCursor}
    {s : Client.SearchStream} {urls : List String} (w : World κ) (running : c.stream = some s)
    (taken : takeEntry s.messages = (urls, none)) :
    fetchPage onward c w = endPage onward s (c.keepReferences urls) w := by
  simp only [fetchPage, Act.bind_apply, Act.self_apply, running, Act.update_apply, taken]
  rfl

/-- Reading a page gets what is owed, if reading on from the next one does. -/
theorem fetchPage_gets {onward : Act κ SearchCursor (Option SearchResult)} {c : SearchCursor}
    {s : Client.SearchStream} {w : World κ} (running : c.stream = some s) (idle : c.peeked = none)
    (further : ∀ (c' : SearchCursor) (next : Client.SearchStream) (w' : World κ),
      c'.stream = some next → c'.peeked = none → next.toSearch = s.toSearch →
      w'.network.repliesLeft s.link = w.network.repliesLeft s.link - 1 →
      (w.network.repliesLeft s.link = 0 → next.messages = [] ∧ next.ending = .result {}) →
      Gets (c'.owed w'.network) (onward c' w')) :
    Gets (c.owed w.network) (fetchPage onward c w) := by
  rw [owed_running _ running idle]
  rcases taken : takeEntry s.messages with ⟨urls, next⟩
  have idle' : (c.keepReferences urls).peeked = none := by rw [keepReferences_eq, idle]
  have running' : (c.keepReferences urls).stream = some s := by rw [keepReferences_eq, running]
  cases next with
  | some next =>
      obtain ⟨e, rest⟩ := next
      rw [fetchPage_entry w running taken, s.unread_messages, owedFor_entry _ _ taken]
      refine ⟨rfl, ?_, idle', fun none => nomatch none⟩
      refine (owed_advanced _ _ idle').trans ?_
      rw [Client.SearchStream.unread_messages]
      rfl
  | none =>
      have past (more : List SearchMessage) (ending : SearchEnd) :
          c.owedFor s.library (s.messages ++ more, ending) =
            (c.keepReferences urls).owedFor s.library (more, ending) := owedFor_past _ ending taken
      rw [fetchPage_end w running taken, endPage]
      cases ends : s.ending with
      | broken e =>
          rw [Client.SearchStream.unread_broken ends, ← List.append_nil s.messages, past]
          exact breakOff_gets _ w idle'
      | result r =>
          dsimp only
          cases mark : s.mark r with
          | last =>
              rw [Client.SearchStream.unread_last ends mark, ← List.append_nil s.messages, past,
                owedFor_result]
              exact finish_gets r w idle'
          | unreadable =>
              rw [Client.SearchStream.unread_unreadable ends mark, ← List.append_nil s.messages,
                past]
              refine ⟨rfl, ?_, idle', fun _ calm => absurd rfl calm⟩
              -- The stream stays, and the next attempt finds the same page.
              refine (owed_running _ running' idle').trans ?_
              rw [Client.SearchStream.unread_unreadable ends mark, ← List.append_nil s.messages,
                owedFor_past _ _ taken]
              rfl
          | more cookie =>
              cases opened : w.network.isOpen s.link with
              | false =>
                  rw [Client.SearchStream.unread_closed ends mark opened,
                    ← List.append_nil s.messages, past]
                  simp only [Act.bind_apply, Client.SearchStream.nextPage_closed cookie _ opened]
                  exact breakOff_gets _ w idle'
              | true =>
                  obtain ⟨next, w', asks, same, unread, left, last⟩ :=
                    Client.SearchStream.nextPage_open (c.keepReferences urls) ends mark opened
                  rw [unread, past]
                  simp only [Act.bind_apply, asks, Act.update_apply]
                  rw [← same, ← owed_advanced next w'.network idle']
                  exact further _ next w' rfl idle' same left last

theorem fetchWithin_gets (pages : Nat) : ∀ {c : SearchCursor} {s : Client.SearchStream}
    {w : World κ}, c.stream = some s → c.peeked = none → w.network.repliesLeft s.link = pages →
      Gets (c.owed w.network) (fetchWithin pages c w) := by
  induction pages with
  | zero =>
      intro c s w running idle left
      refine fetchPage_gets running idle fun c' next w' running' idle' _ _ last => ?_
      obtain ⟨nothing, ends⟩ := last left
      rw [owed_running _ running' idle', Client.SearchStream.unread_last ends next.mark_default,
        nothing, owedFor_result]
      exact finish_gets {} w' idle'
  | succ pages ih =>
      intro c s w running idle left
      refine fetchPage_gets running idle fun c' next w' running' idle' same fewer _ => ?_
      refine ih running' idle' ?_
      rw [same, fewer, left, Nat.add_sub_cancel]

/-- Where the stream is gone there is nothing to read, and nothing is read. -/
theorem fetch_spent {c : SearchCursor} (w : World κ) (spent : c.stream = none) :
    fetch c w = (.ok none, c, w) := by
  have reads (onward : Act κ SearchCursor (Option SearchResult)) :
      fetchPage onward c w = (.ok none, c, w) := by
    simp only [fetchPage, Act.bind_apply, Act.self_apply, spent, Act.pure_apply]
  simp only [fetch, Act.bind_apply, Act.self_apply, Act.network_apply]
  cases w.network.repliesLeft c.link with
  | zero => exact reads _
  | succ pages => exact reads _

/-- A cursor that reads on gets what it owes. -/
theorem fetch_gets {c : SearchCursor} (w : World κ) (own : ∀ s ∈ c.stream, s.link = c.link)
    (idle : c.peeked = none) : Gets (c.owed w.network) (fetch c w) := by
  cases running : c.stream with
  | none =>
      rw [owed_spent _ running idle, fetch_spent w running]
      exact ⟨rfl, owed_spent _ running idle, idle, fun _ _ => running⟩
  | some s => exact fetchWithin_gets _ running idle (by rw [own s running])

end SearchCursor

end ManagedLdap
