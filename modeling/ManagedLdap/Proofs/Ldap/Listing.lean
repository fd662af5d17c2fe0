/-
# ManagedLdap.Proofs.Ldap.Listing -- reading a search to its end at once

A listing is a search that is read to its end before it is handed out.  How often it pulls is
bounded by the messages that have arrived and those the server may still send; that is never too
few (`entries_le_remaining`), so it reads everything its cursor owes (`collect_owed`).  What a
listing comes to is therefore what is owed when its search has started: the failure at the end, if
there is one, and otherwise a child for every entry (`list_outcome`).

In between it is a conversation about the pages of its search, each of which is asked for with the
cookie of the one before it (`list_converses`).
-/
import ManagedLdap.Proofs.Ldap.PageReads
import ManagedLdap.Proofs.Ldap.References

namespace ManagedLdap

set_option autoImplicit false

/-! ## How much is left -/

namespace Client

/-- How many messages replies hold, each counted with its result. -/
def backlogOf (replies : List ServerReply) : Nat :=
  replies.foldr (fun r later => r.messages.length + 1 + later) 0

/-- Reading on through further pages finds no more messages than the replies hold. -/
theorem readThrough_length (mark : LdapResult → PageMark) (patience : Option Nat) (isOpen : Bool)
    (replies : List ServerReply) (messages : List SearchMessage) (ending : PageEnd) :
    (readThrough mark patience isOpen replies messages ending).1.length ≤
      messages.length + backlogOf replies := by
  induction replies generalizing isOpen messages ending with
  | nil =>
      rw [readThrough.eq_def]
      cases ending with
      | broken e => exact Nat.le_add_right _ _
      | result r =>
          dsimp only
          split
          · exact Nat.le_add_right _ _
          · exact Nat.le_add_right _ _
          · split <;> exact Nat.le_add_right _ _
  | cons reply later ih =>
      rw [readThrough.eq_def]
      cases ending with
      | broken e => exact Nat.le_add_right _ _
      | result r =>
          dsimp only
          split
          · exact Nat.le_add_right _ _
          · exact Nat.le_add_right _ _
          · split
            · have arrived : (if reply.drop then [] else reply.messages).length ≤
                  reply.messages.length := by
                split
                · exact Nat.zero_le _
                · exact Nat.le_refl _
              have rest := ih (!reply.closesSearch)
                (if reply.drop then [] else reply.messages) (pageEnd reply patience)
              have total : backlogOf (reply :: later) =
                  reply.messages.length + 1 + backlogOf later := rfl
              rw [List.length_append, total]
              omega
            · exact Nat.le_add_right _ _

end Client

theorem Network.backlog_eq (n : Network) (k : LinkId) :
    n.backlog k = Client.backlogOf (n.script k) := by
  unfold backlog script
  cases n.link? k <;> rfl

namespace SearchCursor

variable {κ : Type} {k : LinkId} {controls : List Control}

/-- The bound on pulls is never too small. -/
theorem entries_le_remaining {c : SearchCursor} {w : World κ} (lies : Over k controls c)
    (idle : c.peeked = none) : (c.owed w.network).entries.length ≤ c.remaining w := by
  cases running : c.stream with
  | none =>
      rw [owed_spent _ running idle]
      exact Nat.zero_le _
  | some s =>
      have found : (c.owedFor s.library (s.unread w.network)).entries.length ≤
          (s.unread w.network).1.length := by
        rw [owedFor, List.length_map]
        exact List.length_filterMap_le _ _
      have read := Client.readThrough_length s.mark s.patience (w.network.isOpen s.link)
        (w.network.script s.link) s.messages s.ending
      have link : s.link = c.link := (lies.stream s running).1.trans lies.link.symm
      rw [owed_running _ running idle, remaining, running, Network.backlog_eq, ← link]
      simp only [Client.SearchStream.unread] at found ⊢
      omega

/-- Pulling often enough gets everything that is owed. -/
theorem collectUpTo_owed (pulls : Nat) {c : SearchCursor} {w : World κ} (lies : Over k controls c)
    (idle : c.peeked = none) (enough : (c.owed w.network).entries.length < pulls) :
    (Cursor.collectUpTo pulls (Cursor.bare c) w).1 =
      .ok ((c.owed w.network).entries, (c.owed w.network).error) := by
  induction pulls generalizing c w with
  | zero => exact absurd enough (Nat.not_lt_zero _)
  | succ pulls ih =>
      have own : ∀ s ∈ c.stream, s.link = c.link := fun s running =>
        (lies.stream s running).1.trans lies.link.symm
      obtain ⟨outcome, after, idle', -⟩ := fetch_gets w own idle
      have pulled : Cursor.next (Cursor.bare c) w = Act.wrapped Cursor.bare c fetch w := by
        change Act.wrapped Cursor.bare c next w = _
        simp only [Act.wrapped, next_idle w idle]
      obtain ⟨lies', -, -⟩ := fetch_reads c w lies
      simp only [Cursor.collectUpTo, Act.bind_apply, Act.outcome, pulled, Act.wrapped]
      generalize fetch c w = y at outcome after idle' lies'
      obtain ⟨r, c', w'⟩ := y
      generalize c.owed w.network = o at outcome after enough
      obtain ⟨_ | ⟨e, entries⟩, error⟩ := o
      · cases error with
        | none =>
            obtain rfl : r = .ok none := outcome
            rfl
        | some f =>
            obtain rfl : r = .error f := outcome
            rfl
      · obtain rfl : r = .ok (some e) := outcome
        replace after : c'.owed w'.network = ⟨entries, error⟩ := after
        have rest := ih lies' idle' (w := w') (by
          rw [after]
          exact Nat.lt_of_succ_lt_succ enough)
        rw [after] at rest
        simp only [Act.bind_apply]
        generalize Cursor.collectUpTo pulls (Cursor.bare c') w' = z at rest
        obtain ⟨r', left, w''⟩ := z
        obtain rfl : r' = .ok (entries, error) := rest
        rfl

/-- Reading a cursor to its end gets everything that is owed. -/
theorem collect_owed {c : SearchCursor} {w : World κ} (lies : Over k controls c)
    (idle : c.peeked = none) :
    (Cursor.collect (Cursor.bare c) w).1 =
      .ok ((c.owed w.network).entries, (c.owed w.network).error) :=
  collectUpTo_owed _ lies idle (Nat.lt_succ_of_le (entries_le_remaining lies idle))

/-! ## What is said meanwhile -/

/-- A cursor whose pages come over one connection, and are waited for so long. -/
def Of (k : LinkId) (patience : Option Nat) (c : SearchCursor) : Prop :=
  ∀ s ∈ c.stream, s.link = k ∧ s.patience = patience

/-- `c'` is what becomes of `c` by these exchanges about further pages of its search. -/
def Asks (c : SearchCursor) (es : List Exchange) (c' : SearchCursor) : Prop :=
  match c.stream with
  | none => es = [] ∧ c'.stream = none
  | some s => ∃ last, s.Turns s.ending es last ∧
      ∀ s' ∈ c'.stream, s'.toSearch = s.toSearch ∧ s'.ending = last

variable {c c' : SearchCursor} {s : Client.SearchStream} {patience : Option Nat}
  {es es' : List Exchange}

theorem asks_spent (spent : c.stream = none) : c.Asks es c' ↔ es = [] ∧ c'.stream = none := by
  rw [Asks, spent]

theorem asks_running (running : c.stream = some s) :
    c.Asks es c' ↔ ∃ last, s.Turns s.ending es last ∧
      ∀ s' ∈ c'.stream, s'.toSearch = s.toSearch ∧ s'.ending = last := by
  rw [Asks, running]

/-- A cursor of which nothing was asked. -/
theorem Asks.nothing (same : c'.stream = c.stream) : c.Asks [] c' := by
  cases running : c.stream with
  | none => exact (asks_spent running).2 ⟨rfl, same.trans running⟩
  | some s =>
      refine (asks_running running).2 ⟨_, .stays _, fun s' running' => ?_⟩
      rw [same, running] at running'
      obtain rfl := Option.some.inj running'
      exact ⟨rfl, rfl⟩

theorem Asks.trans {c'' : SearchCursor} (first : c.Asks es c') (rest : c'.Asks es' c'') :
    c.Asks (es ++ es') c'' := by
  cases running : c.stream with
  | none =>
      obtain ⟨rfl, gone⟩ := (asks_spent running).1 first
      obtain ⟨rfl, gone'⟩ := (asks_spent gone).1 rest
      exact (asks_spent running).2 ⟨rfl, gone'⟩
  | some s =>
      obtain ⟨last, turned, left⟩ := (asks_running running).1 first
      refine (asks_running running).2 ?_
      cases running' : c'.stream with
      | none =>
          obtain ⟨rfl, gone⟩ := (asks_spent running').1 rest
          rw [List.append_nil]
          exact ⟨last, turned, fun s' running'' => by rw [gone] at running''; cases running''⟩
      | some s' =>
          obtain ⟨same, ending⟩ := left s' running'
          obtain ⟨last', turned', left'⟩ := (asks_running running').1 rest
          rw [same, ending] at turned'
          refine ⟨last', turned.append turned', fun s'' running'' => ?_⟩
          obtain ⟨same', ending'⟩ := left' s'' running''
          exact ⟨same'.trans same, ending'⟩

/-- A pull for an entry is a conversation about pages, or says nothing. -/
theorem next_converses (own : Of k patience c) (w : World κ) :
    Of k patience (next c w).2.1 ∧
      ∃ es, Converses patience es (w.network.seen (some k))
        ((next c w).2.2.network.seen (some k)) ∧ c.Asks es (next c w).2.1 := by
  cases running : c.stream with
  | none =>
      cases peeked : c.peeked with
      | none =>
          rw [next_idle w peeked, fetch_spent w running]
          exact ⟨own, [], .silent _, .nothing rfl⟩
      | some e =>
          rw [next_peeked w peeked]
          exact ⟨own, [], .silent _, .nothing rfl⟩
  | some s =>
      have pulls := pull_readsOn .next w running
      rw [Pull.run, Act.map_apply] at pulls
      obtain ⟨⟨es, last, said, turned, left⟩, onward, -⟩ := pulls.advances
      obtain ⟨here, waits⟩ := own s running
      rw [here, waits] at said
      refine ⟨fun s' running' => ?_, es, said, (asks_running running).2
        ⟨last, turned, fun s' running' => ⟨(onward s' running').1, left s' running'⟩⟩⟩
      rw [(onward s' running').1]
      exact ⟨here, waits⟩

theorem collectUpTo_converses (pulls : Nat) : ∀ {c : SearchCursor} (w : World κ),
    Of k patience c → ∃ core es, (Cursor.collectUpTo pulls (Cursor.bare c) w).2.1 = .bare core ∧
      Converses patience es (w.network.seen (some k))
        ((Cursor.collectUpTo pulls (Cursor.bare c) w).2.2.network.seen (some k)) ∧
      c.Asks es core := by
  induction pulls with
  | zero => exact fun {c} w _ => ⟨c, [], rfl, .silent _, .nothing rfl⟩
  | succ pulls ih =>
      intro c w own
      obtain ⟨own', es, said, asked⟩ := next_converses own w
      have pulled : Cursor.next (Cursor.bare c) w = Act.wrapped Cursor.bare c next w := rfl
      simp only [Cursor.collectUpTo, Act.bind_apply, Act.outcome, pulled, Act.wrapped]
      generalize next c w = y at own' said asked
      obtain ⟨r, c', w'⟩ := y
      match r with
      | .error f => exact ⟨c', es, rfl, said, asked⟩
      | .ok none => exact ⟨c', es, rfl, said, asked⟩
      | .ok (some e) =>
          obtain ⟨core, es', bare, said', asked'⟩ := ih w' own'
          simp only [Act.bind_apply]
          generalize Cursor.collectUpTo pulls (Cursor.bare c') w' = z at bare said'
          obtain ⟨r', left, w''⟩ := z
          obtain rfl : left = .bare core := bare
          cases r' with
          | error f => exact ⟨core, es ++ es', rfl, said.append said', asked.trans asked'⟩
          | ok items => exact ⟨core, es ++ es', rfl, said.append said', asked.trans asked'⟩

/-- Reading a cursor to its end is a conversation about further pages. -/
theorem collect_converses (own : Of k patience c) (w : World κ) :
    ∃ core es, (Cursor.collect (Cursor.bare c) w).2.1 = .bare core ∧
      Converses patience es (w.network.seen (some k))
        ((Cursor.collect (Cursor.bare c) w).2.2.network.seen (some k)) ∧
      c.Asks es core :=
  collectUpTo_converses _ w own

end SearchCursor

/-! ## Listings -/

namespace LdapDirContext

variable {κ : Type}

/-- **Listings.**  A listing comes to what its search has to deliver. -/
theorem list_outcome {name : String} {c c' : LdapDirContext} {w w' : World κ}
    {cursor : SearchCursor}
    (started : search name Filter.matchAll listing c w = (.ok cursor, c', w')) :
    (list name c w).1 = match (cursor.owed w'.network).error with
      | some f => .error f
      | none => .ok ((cursor.owed w'.network).entries.map nameClassPair) := by
  obtain ⟨s, tree, made, -, serves⟩ := search_streams started
  have lies : cursor.Over s.link s.controls := by
    rw [made]
    exact .new s (c.resolve name) c.origin
  have idle : cursor.peeked = none := by rw [made]; rfl
  have collected := SearchCursor.collect_owed (w := w') lies idle
  simp only [list, withReturnAttributes_eq_listing, Act.bind_apply, started, Act.on]
  generalize Cursor.collect (Cursor.bare cursor) w' = z at collected ⊢
  obtain ⟨r, left, w''⟩ := z
  obtain rfl : r = _ := collected
  simp only [Act.updateWorld_apply]
  cases (cursor.owed w'.network).error <;> rfl

/-- What a listing said: its search was refused with nothing sent, or its first page was asked for,
and then others as long as there was a cookie. -/
inductive Listed (c : LdapDirContext) (name : String) (w w' : World κ) : List Exchange → Prop
  | refused : Listed c name w w' []
  | read {s : Client.SearchStream} {w₁ : World κ} {first : Exchange} {more : List Exchange}
      {last : Client.PageEnd}
      (started : search name Filter.matchAll listing c w =
        (.ok (.new s.link s (c.resolve name) c.origin), c, w₁))
      (patience : s.patience = c.patience) (paging : s.pageSize = c.paging listing)
      (library : first.library = s.library) (asked : first.sent = s.page [])
      (ending : s.ending = Client.pageEnd first.reply s.patience)
      (said : Converses s.patience more (w₁.network.seen (some s.link))
        (w'.network.seen (some s.link)))
      (turned : s.Turns s.ending more last) : Listed c name w w' (first :: more)

/-- A listing is a conversation about the pages of its search, and leaves its context as it was. -/
theorem list_converses (name : String) (c : LdapDirContext) (w : World κ) :
    (list name c w).2.1 = c ∧ ∃ es, Converses c.patience es (w.network.seen c.connection)
      ((list name c w).2.2.network.seen c.connection) ∧
      Listed c name w (list name c w).2.2 es := by
  have begun := search_begun name Filter.matchAll listing c w
  rcases started : search name Filter.matchAll listing c w with ⟨outcome, c', w₁⟩
  rw [started] at begun
  simp only [list, withReturnAttributes_eq_listing, Act.bind_apply, started]
  cases begun with
  | refused e => exact ⟨rfl, [], .silent _, .refused⟩
  | @asked k s tree _ held serves latest library ending said =>
      obtain rfl := serves.link
      have own : SearchCursor.Of s.link c.patience (.new s.link s (c.resolve name) c.origin) := by
        intro s' running
        obtain rfl := Option.some.inj running
        exact ⟨rfl, serves.patience⟩
      obtain ⟨core, es, bare, said', asks⟩ := SearchCursor.collect_converses own w₁
      obtain ⟨last, turned, -⟩ := (SearchCursor.asks_running rfl).1 asks
      simp only [Act.on]
      generalize Cursor.collect (Cursor.bare (SearchCursor.new _ _ _ _)) w₁ = z at bare said'
      obtain ⟨outcome, left, w'⟩ := z
      have dropped : (left.discard w').network.seen (some s.link) =
          w'.network.seen (some s.link) := by
        obtain rfl : left = .bare core := bare
        exact Network.seen_modifyLink fun _ => rfl
      rw [← dropped] at said'
      have whole := said.append said'
      rw [← held] at whole
      have listed : Listed c name w (left.discard w')
          (w.network.answer s.link c.patience (s.page []) :: es) := by
        refine .read started serves.patience serves.pageSize library.symm rfl ?_ ?_ turned
        · rw [serves.patience]
          exact ending
        · rw [serves.patience]
          exact said'
      simp only [Act.updateWorld_apply]
      rcases outcome with f | ⟨results, _ | f⟩
      · exact ⟨rfl, _, whole, listed⟩
      · exact ⟨rfl, _, whole, listed⟩
      · exact ⟨rfl, _, whole, listed⟩

end LdapDirContext

end ManagedLdap
