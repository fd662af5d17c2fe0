/-
# ManagedLdap.Proofs.Ldap.PageReads -- what reading a search says over its connection

Reading a search is a conversation about its pages: every further page is asked for with the
request of the search, over its connection, and answered by the next reply.  The stream remembers
the place of the page it asked for last, which is the one to name when the search is given up.

`Advances` says so of one attempt to read: what was said, where the stream is then, and that it is
gone exactly where the attempt came upon the end of the search.  `fetch_readsOn` goes through the
pages for it, and `pull_readsOn` is the same for what a reader does, with an entry at hand or not.
`search_begun` says how a search starts: refused, with nothing sent, or with its first page.
Which of its results is the last one is for the library to say, and `Turns` goes by that.
-/
import ManagedLdap.Proofs.Ldap.Exchanges
import ManagedLdap.Proofs.Ldap.LazySearch

namespace ManagedLdap

set_option autoImplicit false

/-! ## Places -/

namespace Network

variable {n n' n'' : Network} {k : LinkId}

theorem sentCount_eq (n : Network) (k : LinkId) : n.sentCount k = (n.sentOver k).length := by
  unfold sentCount sentOver
  cases n.link? k <;> rfl

/-- The places of the requests that were sent over a connection between two moments. -/
def places (n : Network) (k : LinkId) (n' : Network) : List Nat :=
  List.range' (n.sentCount k) (n'.sentCount k - n.sentCount k)

theorem places_self (n : Network) (k : LinkId) : n.places k n = [] := by
  rw [places, Nat.sub_self, List.range'_zero]

/-- The places of what was said first come before those of what was said then. -/
theorem places_append (first : n.sentCount k ≤ n'.sentCount k)
    (second : n'.sentCount k ≤ n''.sentCount k) :
    n.places k n'' = n.places k n' ++ n'.places k n'' := by
  obtain ⟨a, early⟩ := Nat.exists_eq_add_of_le first
  obtain ⟨b, late⟩ := Nat.exists_eq_add_of_le second
  have whole : n''.sentCount k = n.sentCount k + (a + b) := by omega
  rw [places, places, places, whole, early, Nat.add_sub_cancel_left, Nat.add_sub_cancel_left,
    ← Nat.add_assoc, Nat.add_sub_cancel_left, List.range'_append_1]

end Network

/-- A conversation takes one place for each of its requests. -/
theorem Converses.sentCount {patience : Option Nat} {es : List Exchange} {n n' : Network}
    {k : LinkId} (said : Converses patience es (n.seen (some k)) (n'.seen (some k))) :
    n'.sentCount k = n.sentCount k + es.length := by
  rw [Network.sentCount_eq, Network.sentCount_eq, said.sentOver, List.length_append,
    List.length_map]

/-! ## Pages -/

/-- Pages of a search that were asked for one after the other, each with the cookie of the one
before it: how the page ends that was there first, and how the last of them does. -/
inductive Client.Search.Turns (s : Search) : PageEnd → List Exchange → PageEnd → Prop
  | stays (ending : PageEnd) : Turns s ending [] ending
  | turns {r : LdapResult} {cookie : Octets} {e : Exchange} {es : List Exchange} {last : PageEnd}
      (more : s.mark r = .more cookie) (asks : e.sent = s.page cookie)
      (rest : Turns s (pageEnd e.reply s.patience) es last) : Turns s (.result r) (e :: es) last

namespace Client.Search.Turns

variable {s : Search} {es es' : List Exchange} {ending last last' : PageEnd}

theorem append (first : s.Turns ending es last) (rest : s.Turns last es' last') :
    s.Turns ending (es ++ es') last' := by
  induction first with
  | stays ending => exact rest
  | turns more asks _ ih => exact .turns more asks (ih rest)

theorem pages (turned : s.Turns ending es last) : ∀ e ∈ es, ∃ cookie, e.sent = s.page cookie := by
  induction turned with
  | stays ending => exact List.forall_mem_nil _
  | turns more asks _ ih => exact List.forall_mem_cons.2 ⟨⟨_, asks⟩, ih⟩

/-- Behind a page that is the last one there is no other. -/
theorem ends {first e : Exchange} {r : LdapResult}
    (turned : s.Turns (pageEnd first.reply s.patience) es last) (among : e ∈ first :: es)
    (result : pageEnd e.reply s.patience = .result r) (final : s.mark r = .last) :
    (first :: es).getLast? = some e ∧ last = .result r := by
  generalize ending : pageEnd first.reply s.patience = found at turned
  induction es generalizing first found with
  | nil =>
      obtain rfl := List.mem_singleton.1 among
      cases turned
      exact ⟨rfl, ending ▸ result⟩
  | cons next es ih =>
      cases turned with
      | turns more asks rest =>
          rcases List.mem_cons.1 among with rfl | later
          · rw [result] at ending
            obtain rfl := PageEnd.result.inj ending
            rw [final] at more
            cases more
          · obtain ⟨there, same⟩ := ih later _ rfl rest
            exact ⟨by rw [List.getLast?_cons_cons, there], same⟩

/-- A search whose pages were turned up to the last one was to end with the result of that. -/
theorem readThrough {l : Link} {l' : Option Link} {r : LdapResult} (messages : List SearchMessage)
    (turned : s.Turns ending es last) (said : Converses s.patience es (some l) l')
    (result : last = .result r) (final : s.mark r = .last) :
    (Client.readThrough s.mark s.patience l.isOpen l.script messages ending).2 = .result r := by
  induction turned generalizing l messages with
  | stays ending =>
      rw [result, Client.readThrough.eq_def]
      simp only [final]
  | @turns r' cookie e es last more asks rest ih =>
      cases said with
      | exchange listens next said =>
          have reply : e.reply = l.script.headD {} := by rw [next]; rfl
          have later := ih (if e.reply.drop then [] else e.reply.messages) said result
          have closes : e.closes = e.reply.closesSearch := by
            refine Exchange.closes_search ?_
            rw [asks]
            rfl
          rw [Client.readThrough.eq_def]
          simp only [more, listens, if_true]
          cases left : l.script with
          | nil =>
              rw [left] at reply
              -- Where no reply is left the page is empty and the last.
              replace reply : e.reply = {} := reply
              rw [Link.exchanged, left, reply, pageEnd_default, Client.readThrough.eq_def] at later
              simp only [mark_default] at later
              exact later
          | cons first script =>
              rw [left] at reply
              simp only [Link.exchanged, left, closes, reply] at later
              exact later

end Client.Search.Turns

namespace Client.SearchStream

variable {κ : Type} {s s' : SearchStream}

/-- What an attempt to read on did: what it said, and where the search is then. -/
structure Advances (s : SearchStream) (n : Network) (after : Option SearchStream) (n' : Network)
    (ended : Prop) : Prop where
  said : ∃ es last, Converses s.patience es (n.seen (some s.link)) (n'.seen (some s.link)) ∧
    s.Turns s.ending es last ∧ ∀ s' ∈ after, s'.ending = last
  onward : ∀ s' ∈ after, s'.toSearch = s.toSearch ∧
    s'.latest = (n.places s.link n').getLast?.getD s.latest
  gone : after = none ↔ ended

namespace Advances

variable {n n' : Network} {ended : Prop}

/-- The search goes on within the page that is there. -/
theorem within (n : Network) (same : s'.toSearch = s.toSearch) (ending : s'.ending = s.ending)
    (latest : s'.latest = s.latest) (on : ¬ ended) : Advances s n (some s') n ended where
  said := by
    refine ⟨[], _, .silent _, .stays _, fun s'' running => ?_⟩
    obtain rfl := Option.some.inj running
    exact ending
  onward := by
    intro s'' running
    obtain rfl := Option.some.inj running
    refine ⟨same, ?_⟩
    rw [n.places_self, latest]
    rfl
  gone := by simp [on]

/-- The search ends with the page that is there. -/
theorem stops (s : SearchStream) (n : Network) (ends : ended) : Advances s n none n ended where
  said := ⟨[], _, .silent _, .stays _, fun _ running => nomatch running⟩
  onward := by
    intro s' running
    cases running
  gone := by simp [ends]

/-- The search goes on with a page that was asked for. -/
theorem turned {e : Exchange} {next : SearchStream} {n₁ : Network} {after : Option SearchStream}
    {r : LdapResult} {cookie : Octets}
    (turns : Converses s.patience [e] (n.seen (some s.link)) (n₁.seen (some s.link)))
    (ends : s.ending = .result r) (more : s.mark r = .more cookie) (asks : e.sent = s.page cookie)
    (same : next.toSearch = s.toSearch) (ending : next.ending = pageEnd e.reply s.patience)
    (latest : next.latest = n.sentCount s.link) (later : Advances next n₁ after n' ended) :
    Advances s n after n' ended := by
  obtain ⟨es, last, said, pages, left⟩ := later.said
  rw [same] at said
  rw [same, ending] at pages
  refine ⟨⟨e :: es, last, turns.append said, ?_, left⟩, ?_, later.gone⟩
  · rw [ends]
    exact .turns more asks pages
  · intro s' running
    obtain ⟨same', last⟩ := later.onward s' running
    refine ⟨same'.trans same, ?_⟩
    have first : n₁.sentCount s.link = n.sentCount s.link + 1 := turns.sentCount
    have rest := said.sentCount
    have one : n.places s.link n₁ = [n.sentCount s.link] := by
      rw [Network.places, first, Nat.add_sub_cancel_left]
      rfl
    have split : n.places s.link n' = n.sentCount s.link :: n₁.places s.link n' := by
      have early : n.sentCount s.link ≤ n₁.sentCount s.link := by omega
      have late : n₁.sentCount s.link ≤ n'.sentCount s.link := by omega
      rw [Network.places_append early late, one, List.singleton_append]
    rw [last, same, latest, split, List.getLast?_cons]
    rfl

/-- The place that a stream remembers is that of a page of the search, before and after. -/
theorem asked {after : Option SearchStream} (advances : Advances s n after n' ended)
    (before : ∃ cookie, (n.sentOver s.link)[s.latest]? = some (s.page cookie)) :
    ∀ s' ∈ after, ∃ cookie, (n'.sentOver s.link)[s'.latest]? = some (s.page cookie) := by
  intro s' running
  obtain ⟨es, last, said, turned, -⟩ := advances.said
  obtain ⟨-, latest⟩ := advances.onward s' running
  have taken : n.places s.link n' = List.range' (n.sentCount s.link) es.length := by
    rw [Network.places, said.sentCount, Nat.add_sub_cancel_left]
  rw [said.sentOver, latest, taken]
  rcases List.eq_nil_or_concat es with rfl | ⟨earlier, e, rfl⟩
  · obtain ⟨cookie, there⟩ := before
    refine ⟨cookie, ?_⟩
    rw [List.map_nil, List.append_nil]
    exact there
  · obtain ⟨cookie, sent⟩ := turned.pages e (by simp)
    refine ⟨cookie, ?_⟩
    -- The last of the new places is the place of the last page.
    have last : (List.range' (n.sentCount s.link) (earlier.concat e).length).getLast? =
        some ((n.sentOver s.link).length + earlier.length) := by
      rw [Network.sentCount_eq, List.length_concat, List.range'_1_concat, List.getLast?_concat]
    rw [last, Option.getD_some, List.getElem?_append_right (Nat.le_add_right _ _),
      Nat.add_sub_cancel_left]
    simp [sent]

/-- Another way to tell whether the search ended. -/
theorem endsAs {after : Option SearchStream} {ended' : Prop}
    (advances : Advances s n after n' ended) (same : ended ↔ ended') :
    Advances s n after n' ended' :=
  ⟨advances.said, advances.onward, advances.gone.trans same⟩

end Advances

end Client.SearchStream

namespace SearchCursor

open Client (SearchStream)
open Client.SearchStream (Advances)

variable {κ : Type}

/-! ## Reading on -/

/-- Whether an attempt to read came upon the end of the search, a failure of it included.  A panic
is none: it leaves the stream where it was. -/
def Finds (outcome : Except Failure (Option SearchResult)) : Prop :=
  outcome = .ok none ∨ ∃ e, outcome = .error (.error e)

/-- What an attempt of `c` to read its stream `s` did. -/
structure ReadsOn (c : SearchCursor) (s : SearchStream) (w : World κ)
    (y : Except Failure (Option SearchResult) × SearchCursor × World κ) : Prop where
  link : y.2.1.link = c.link
  base : y.2.1.base = c.base
  peeked : y.2.1.peeked = c.peeked
  advances : s.Advances w.network y.2.1.stream y.2.2.network (Finds y.1)

theorem finish_readsOn (c : SearchCursor) (s : SearchStream) (r : LdapResult) (w : World κ) :
    ReadsOn c s w (finish r c w) := by
  simp only [finish, Act.bind_apply, Act.self_apply, Act.update_apply]
  cases c.verdict r with
  | none => exact ⟨rfl, rfl, rfl, .stops s _ (.inl rfl)⟩
  | some e => exact ⟨rfl, rfl, rfl, .stops s _ (.inr ⟨e, rfl⟩)⟩

theorem breakOff_readsOn (c : SearchCursor) (s : SearchStream) (e : ClientError) (w : World κ) :
    ReadsOn c s w (breakOff e c w) :=
  ⟨rfl, rfl, rfl, .stops s _ (.inr ⟨.ofClient e, rfl⟩)⟩

theorem keepReferences_same (c : SearchCursor) (urls : List String) :
    (c.keepReferences urls).link = c.link ∧ (c.keepReferences urls).base = c.base ∧
      (c.keepReferences urls).peeked = c.peeked ∧ (c.keepReferences urls).stream = c.stream := by
  rw [keepReferences_eq]
  exact ⟨rfl, rfl, rfl, rfl⟩

/-- Reading a page reads on, if reading on from the next one does. -/
theorem fetchPage_readsOn {onward : Act κ SearchCursor (Option SearchResult)}
    (further : ∀ (c : SearchCursor) (s : SearchStream) (w : World κ), c.stream = some s →
      ReadsOn c s w (onward c w))
    (c : SearchCursor) (s : SearchStream) (w : World κ) (running : c.stream = some s) :
    ReadsOn c s w (fetchPage onward c w) := by
  rcases taken : takeEntry s.messages with ⟨urls, next⟩
  obtain ⟨link, base, peeked, stream⟩ := keepReferences_same c urls
  cases next with
  | some next =>
      obtain ⟨e, rest⟩ := next
      rw [fetchPage_entry w running taken]
      refine ⟨link, base, peeked, .within _ rfl rfl rfl ?_⟩
      rintro (nothing | ⟨e, failed⟩)
      · cases nothing
      · cases failed
  | none =>
      rw [fetchPage_end w running taken, endPage]
      -- What is left to do has the references that were passed, and that is all it changes.
      suffices reads : ReadsOn (c.keepReferences urls) s w _ from
        ⟨reads.link.trans link, reads.base.trans base, reads.peeked.trans peeked, reads.advances⟩
      cases ends : s.ending with
      | broken e => exact breakOff_readsOn _ s e w
      | result r =>
          dsimp only
          cases mark : s.mark r with
          | last => exact finish_readsOn _ s r w
          | unreadable =>
              have panics : ¬ Finds (.error .panic) := by
                rintro (nothing | ⟨e, failed⟩)
                · cases nothing
                · cases failed
              refine ⟨rfl, rfl, rfl, ?_⟩
              dsimp only [Act.failWith_apply]
              rw [stream, running]
              exact .within _ rfl rfl rfl panics
          | more cookie =>
              cases opened : w.network.isOpen s.link with
              | false =>
                  simp only [Act.bind_apply, SearchStream.nextPage_closed cookie _ opened]
                  exact breakOff_readsOn _ s _ w
              | true =>
                  let reply := w.network.nextReply s.link
                  let next : SearchStream :=
                    { toSearch := s.toSearch
                      messages := if reply.drop then [] else reply.messages
                      ending := Client.pageEnd reply s.patience
                      latest := s.library.latest s.first (w.network.sentCount s.link) }
                  let w' := w.exchange s.link (s.page cookie) ServerReply.closesSearch
                  let e := w.network.answer s.link s.patience (s.page cookie)
                  have same : next.toSearch = s.toSearch := rfl
                  have ending : next.ending = Client.pageEnd e.reply s.patience := rfl
                  have latest : next.latest = w.network.sentCount s.link :=
                    s.library.latest_last _ _
                  have later :=
                    further { c.keepReferences urls with stream := some next } next w' rfl
                  have said := Network.exchanged_seen opened s.patience (s.page cookie)
                    (Exchange.closes_search rfl)
                  simp only [Act.bind_apply, Client.nextPage, Client.requestPage_apply, opened,
                    if_true, Act.update_apply]
                  exact ⟨later.link, later.base, later.peeked,
                    .turned said ends mark rfl same ending latest later.advances⟩

/-- **Reading on.**  However many pages are read, the search goes on with them. -/
theorem fetch_readsOn (c : SearchCursor) (s : SearchStream) (w : World κ)
    (running : c.stream = some s) : ReadsOn c s w (fetch c w) := by
  have within : ∀ pages (c : SearchCursor) (s : SearchStream) (w : World κ), c.stream = some s →
      ReadsOn c s w (fetchWithin pages c w) := by
    intro pages
    induction pages with
    | zero => exact fetchPage_readsOn fun c s w _ => finish_readsOn c s {} w
    | succ pages ih => exact fetchPage_readsOn ih
  exact within _ c s w running

/-! ## Pulls -/

/-- Whether a pull came upon the end of the search, a failure of it included. -/
def cameToEnd : Except Failure Pulled → Bool
  | .ok (.more more) => !more
  | .ok (.taken e) => e.isNone
  | .error (.error _) => true
  | .error .panic => false

theorem finds_taken (outcome : Except Failure (Option SearchResult)) :
    Finds outcome ↔ cameToEnd (outcome.map .taken) = true := by
  match outcome with
  | .ok none => simp [Finds, Except.map, cameToEnd]
  | .ok (some e) => simp [Finds, Except.map, cameToEnd]
  | .error (.error e) => simp [Finds, Except.map, cameToEnd]
  | .error .panic => simp [Finds, Except.map, cameToEnd]

theorem finds_more (found : Option SearchResult) :
    Finds (.ok found) ↔ cameToEnd (.ok (.more found.isSome)) = true := by
  cases found <;> simp [Finds, cameToEnd]

/-- What a pull of `c` from its stream `s` did. -/
structure PullsOn (c : SearchCursor) (s : SearchStream) (w : World κ)
    (y : Except Failure Pulled × SearchCursor × World κ) : Prop where
  link : y.2.1.link = c.link
  base : y.2.1.base = c.base
  advances : s.Advances w.network y.2.1.stream y.2.2.network (cameToEnd y.1 = true)
  /-- Where the stream is gone there is no entry at hand either. -/
  spent : y.2.1.stream = none → y.2.1.peeked = none

/-- With an entry at hand nothing is read. -/
theorem pull_peeked {c : SearchCursor} {s : SearchStream} {e : SearchResult} (p : Pull)
    (w : World κ) (running : c.stream = some s) (peeked : c.peeked = some e) :
    PullsOn c s w (p.run c w) := by
  have stays : s.Advances w.network c.stream w.network (cameToEnd (.ok (p.finds e)) = true) := by
    rw [running]
    refine .within _ rfl rfl rfl ?_
    cases p <;> simp [Pull.finds, cameToEnd]
  cases p with
  | hasMore =>
      rw [Pull.run, Act.map_apply, hasMore_peeked w peeked]
      exact ⟨rfl, rfl, stays, by simp [running]⟩
  | next =>
      rw [Pull.run, Act.map_apply, next_peeked w peeked]
      exact ⟨rfl, rfl, stays, by simp⟩

/-- **A pull reads on**, as far as the next entry or the end. -/
theorem pull_readsOn {c : SearchCursor} {s : SearchStream} (p : Pull) (w : World κ)
    (running : c.stream = some s) : PullsOn c s w (p.run c w) := by
  cases peeked : c.peeked with
  | some e => exact pull_peeked p w running peeked
  | none =>
      obtain ⟨link, base, same, advances⟩ := fetch_readsOn c s w running
      rw [peeked] at same
      cases p with
      | next =>
          rw [Pull.run, Act.map_apply, next_idle w peeked]
          exact ⟨link, base, advances.endsAs (finds_taken _), fun _ => same⟩
      | hasMore =>
          rw [Pull.run, Act.map_apply, hasMore_idle w peeked]
          generalize fetch c w = y at link base same advances
          obtain ⟨r, c', w'⟩ := y
          cases r with
          | error f => exact ⟨link, base, advances.endsAs (finds_taken (.error f)), fun _ => same⟩
          | ok found =>
              refine ⟨link, base, advances.endsAs (finds_more found), fun gone => ?_⟩
              -- Where the stream is gone, no entry was found.
              rcases advances.gone.1 gone with nothing | ⟨e, failed⟩
              · exact Except.ok.inj nothing
              · cases failed

end SearchCursor

/-! ## The first page -/

/-- A search is refused, with nothing sent, or its first page is asked for and answered. -/
theorem Client.startSearch_begins {κ σ : Type} (k : LinkId) (patience : Option Nat)
    (controls : List Control) (size : Option Int) (spec : SearchSpec) (t : σ) (w : World κ) :
    (∃ e, startSearch k patience controls size spec t w = (.ok (.error e), t, w)) ∨
      ∃ s w', startSearch k patience controls size spec t w = (.ok (.ok s), t, w') ∧
        (∃ tree, s.Serves k patience controls size (spec.toRequest tree)) ∧
        s.latest = w.network.sentCount k ∧ s.library = w.network.reader k ∧
        s.ending = pageEnd (w.network.nextReply k) patience ∧
        Converses patience [w.network.answer k patience (s.page [])] (w.network.seen (some k))
          (w'.network.seen (some k)) := by
  unfold startSearch
  split
  · exact .inl ⟨_, rfl⟩
  · cases Filter.parse? spec.filter with
    | none => exact .inl ⟨_, rfl⟩
    | some tree =>
        simp only [Act.bind_apply, Act.network_apply, requestPage_apply]
        cases listens : w.network.isOpen k with
        | false => exact .inl ⟨_, rfl⟩
        | true =>
            exact .inr ⟨_, _, rfl, ⟨tree, rfl, rfl, rfl, rfl, rfl⟩, Library.latest_last _ _ _, rfl, rfl,
              Network.exchanged_seen listens patience _ (Exchange.closes_search rfl)⟩

namespace LdapDirContext

open Client (SearchStream)

variable {κ : Type}

/-- What starting a search came to: it was refused, with nothing sent, or its first page was asked
for and answered. -/
inductive Begun (c : LdapDirContext) (name filter : String) (controls : SearchControls)
    (w : World κ) : Except Failure SearchCursor × LdapDirContext × World κ → Prop
  | refused (e : DirError) : Begun c name filter controls w (.error (.error e), c, w)
  | asked {k : LinkId} {s : SearchStream} {tree : Filter.Tree} {w' : World κ}
      (held : c.connection = some k)
      (serves : s.Serves k c.patience c.requestControls (c.paging controls)
        ((searchSpec (c.resolve name) filter controls).toRequest tree))
      (latest : s.latest = w.network.sentCount k) (library : s.library = w.network.reader k)
      (ending : s.ending = Client.pageEnd (w.network.nextReply k) c.patience)
      (said : Converses c.patience [w.network.answer k c.patience (s.page [])]
        (w.network.seen (some k)) (w'.network.seen (some k))) :
      Begun c name filter controls w (.ok (.new k s (c.resolve name) c.origin), c, w')

theorem search_begun (name filter : String) (controls : SearchControls) (c : LdapDirContext)
    (w : World κ) : Begun c name filter controls w (search name filter controls c w) := by
  cases held : c.connection with
  | none =>
      have closed : search name filter controls c w = (.error (.error .closed), c, w) := by
        simp only [search, linkOf, held, Act.bind_apply, Act.self_apply, Act.fail_apply]
      rw [closed]
      exact .refused .closed
  | some k =>
      rcases Client.startSearch_begins k c.patience c.requestControls (c.paging controls)
          (searchSpec (c.resolve name) filter controls) c w with
        ⟨e, refused⟩ | ⟨s, w', began, ⟨tree, serves⟩, latest, library, ending, said⟩
      · rw [paging] at refused
        have fails : search name filter controls c w = (.error (.error (.ofClient e)), c, w) := by
          simp only [search, linkOf, held, Client.orFail, Act.bind_apply, Act.self_apply,
            Act.pure_apply, refused, Act.fail_apply]
        rw [fails]
        exact .refused _
      · rw [paging] at began
        have starts : search name filter controls c w =
            (.ok (.new k s (c.resolve name) c.origin), c,
              { w' with network := w'.network.hold k }) := by
          simp only [search, linkOf, held, Client.orFail, Act.bind_apply, Act.self_apply,
            Act.pure_apply, began, Connection.hold, Act.updateNetwork_apply]
        have shared : (w'.network.hold k).seen (some k) = w'.network.seen (some k) :=
          Network.seen_modifyLink fun _ => rfl
        rw [starts]
        rw [← shared] at said
        exact .asked held serves latest library ending said

end LdapDirContext

end ManagedLdap
