/-
# ManagedLdap.Proofs.Ldap.Shares -- the books on who holds which connection

`Books` count the contexts and the cursors on every connection.  They are in order
(`Books.InOrder`) when every connection has as many shares as it has holders and takes no
request after an unbind, which nobody sends before the last share goes.

Everything done to connections is one of a few entries: traffic, lending a share to a context
or a cursor, opening, dropping a share, and departing, which is giving a share up in words.  All
but the last are quiet (`Books.Quiet`): they keep the books in order, send no unbind request and
never touch a connection that nobody holds.  A departure sends one unbind request if the share
was the last one and the server listens, and none otherwise (`InOrder.depart`).
-/
import ManagedLdap.Proofs.Ldap.Opening

namespace ManagedLdap

set_option autoImplicit false

/-! ## Unbind requests -/

/-- Whether a request ends its connection. -/
def Request.isUnbind : Request → Bool
  | .unbind => true
  | _ => false

/-- A request that ends no connection. -/
def SentRequest.Quiet (r : SentRequest) : Prop := r.request.isUnbind = false

theorem SentRequest.Operates.quiet {r : SentRequest} (operates : r.Operates) : r.Quiet := by
  obtain ⟨request, controls⟩ := r
  cases request with
  | unbind => cases operates
  | _ => rfl

theorem SentRequest.Bears.quiet {controls : List Control} {size : Option Int} {r : SentRequest}
    (bears : r.Bears controls size) : r.Quiet :=
  bears.operates.quiet

theorem SentRequest.Begins.quiet {credentials : Credentials} {controls : List Control}
    {r : SentRequest} (begins : r.Begins credentials controls) : r.Quiet := by
  rcases begins with rfl | rfl
  · rfl
  · rfl

namespace Link

/-- How many unbind requests were sent. -/
def unbinds (l : Link) : Nat := l.sent.countP fun r => r.request.isUnbind

/-- An unbind request is the last one, and nobody holds the connection then. -/
def Proper (l : Link) : Prop :=
  l.unbinds = 0 ∨ l.shares = 0 ∧ ∃ earlier last, l.sent = earlier ++ [last] ∧
    last.request.isUnbind = true ∧ (earlier.countP fun r => r.request.isUnbind) = 0

theorem unbinds_eq_zero {l : Link} (quiet : ∀ r ∈ l.sent, r.Quiet) : l.unbinds = 0 :=
  List.countP_eq_zero.2 fun r among => Bool.eq_false_iff.1 (quiet r among)

theorem Talked.unbinds {l l' : Link} (talked : Talked SentRequest.Quiet l l') :
    l'.unbinds = l.unbinds := by
  obtain ⟨more, sent, quiet⟩ := talked.sent
  have none : (more.countP fun r => r.request.isUnbind) = 0 :=
    List.countP_eq_zero.2 fun r among => Bool.eq_false_iff.1 (quiet r among)
  rw [Link.unbinds, sent, List.countP_append, none]
  rfl

theorem Proper.unbinds_le {l : Link} (proper : l.Proper) : l.unbinds ≤ 1 := by
  rcases proper with none | ⟨-, earlier, last, sent, isLast, quiet⟩
  · exact none ▸ Nat.zero_le 1
  · rw [unbinds, sent, List.countP_append, quiet]
    simp [isLast]

/-- While somebody holds a connection no unbind request was sent. -/
theorem Proper.unbinds_of_held {l : Link} (proper : l.Proper) (held : 0 < l.shares) :
    l.unbinds = 0 := by
  rcases proper with none | ⟨gone, -⟩
  · exact none
  · exact absurd gone (Nat.pos_iff_ne_zero.1 held)

theorem released_shares (l : Link) : l.released.shares = l.shares - 1 := by
  unfold released
  split
  · next both => simp [both.1]
  · rfl

theorem released_unbinds (l : Link) :
    l.released.unbinds = l.unbinds + if l.shares = 1 ∧ l.isOpen = true then 1 else 0 := by
  unfold released
  split
  · simp [unbinds, Request.isUnbind]
  · rfl

theorem released_proper {l : Link} (silent : l.unbinds = 0) : l.released.Proper := by
  unfold released
  split
  · exact .inr ⟨rfl, l.sent, ⟨.unbind, []⟩, rfl, rfl, silent⟩
  · exact .inl silent

end Link

namespace Network

/-- What was sent over a connection. -/
def sentOver (n : Network) (k : LinkId) : List SentRequest :=
  match n.link? k with
  | some l => l.sent
  | none => []

/-- How many unbind requests were sent over a connection. -/
def unbindsOver (n : Network) (k : LinkId) : Nat :=
  (n.sentOver k).countP fun r => r.request.isUnbind

theorem sentOver_of_link? {n : Network} {k : LinkId} {l : Link} (found : n.link? k = some l) :
    n.sentOver k = l.sent := by
  simp only [sentOver, found]

theorem unbindsOver_of_link? {n : Network} {k : LinkId} {l : Link} (found : n.link? k = some l) :
    n.unbindsOver k = l.unbinds := by
  simp only [unbindsOver, sentOver, found, Link.unbinds]

theorem shares_of_link? {n : Network} {k : LinkId} {l : Link} (found : n.link? k = some l) :
    n.shares k = l.shares := by
  simp only [shares, found]

theorem sentOver_congr {n n' : Network} {k : LinkId} (same : n'.link? k = n.link? k) :
    n'.sentOver k = n.sentOver k := by
  simp only [sentOver, same]

/-- Connections that were made before stay where they are. -/
theorem Grown.link? {P : SentRequest → Prop} {n n' : Network} {opened : Option LinkId}
    (grown : Grown P n n' opened) {k : LinkId} (old : k < n.links.length) :
    n'.link? k = n.link? k := by
  obtain ⟨new, links, -⟩ := grown
  unfold Network.link?
  rw [links, List.getElem?_append_left old]

theorem link?_lt {n : Network} {k : LinkId} {l : Link} (found : n.link? k = some l) :
    k < n.links.length :=
  (List.getElem?_eq_some_iff.1 found).1

end Network

/-! ## Books -/

/-- Which contexts and cursors hold which connection, by their number. -/
structure Books where
  network : Network
  contexts : LinkId → Nat
  cursors : LinkId → Nat

namespace Books

/-- How many holders a connection has. -/
def held (b : Books) (k : LinkId) : Nat := b.contexts k + b.cursors k

/-- One more of these on a connection. -/
def plus (count : LinkId → Nat) (k : LinkId) : LinkId → Nat := fun j =>
  count j + if j = k then 1 else 0

/-- One less of these on a connection. -/
def minus (count : LinkId → Nat) (k : LinkId) : LinkId → Nat := fun j =>
  count j - if j = k then 1 else 0

/-- Every connection has as many shares as holders, and an unbind request ended its traffic. -/
structure InOrder (b : Books) : Prop where
  shares : ∀ k, b.network.shares k = b.held k
  proper : ∀ k l, b.network.link? k = some l → l.Proper

/-- What happens without a departure. -/
structure Quiet (b b' : Books) : Prop where
  inOrder : b'.InOrder
  made : b.network.links.length ≤ b'.network.links.length
  unbinds : ∀ k, b'.network.unbindsOver k = b.network.unbindsOver k
  /-- A connection that nobody holds is left alone for good. -/
  unheld : ∀ k < b.network.links.length, b.held k = 0 →
    b'.held k = 0 ∧ b'.network.link? k = b.network.link? k
  /-- Only a context makes further contexts on its connection. -/
  departed : ∀ k < b.network.links.length, b.contexts k = 0 → b'.contexts k = 0

/-- A context gives up its share and says so. -/
def depart (b : Books) (k : LinkId) : Books :=
  { b with network := b.network.modifyLink k Link.released, contexts := minus b.contexts k }

variable {b b' b'' : Books} {k : LinkId}

theorem Quiet.refl (order : b.InOrder) : Quiet b b :=
  ⟨order, Nat.le_refl _, fun _ => rfl, fun _ _ none => ⟨none, rfl⟩, fun _ _ none => none⟩

theorem Quiet.trans (first : Quiet b b') (second : Quiet b' b'') : Quiet b b'' := by
  refine ⟨second.inOrder, Nat.le_trans first.made second.made, fun k => ?_, fun k old none => ?_,
    fun k old none => ?_⟩
  · rw [second.unbinds, first.unbinds]
  · obtain ⟨none', same⟩ := first.unheld k old none
    obtain ⟨none'', same'⟩ := second.unheld k (Nat.lt_of_lt_of_le old first.made) none'
    exact ⟨none'', same'.trans same⟩
  · exact second.departed k (Nat.lt_of_lt_of_le old first.made) (first.departed k old none)

/-- A connection that is held exists, and no unbind request was sent over it. -/
theorem InOrder.holder (order : b.InOrder) (held : 0 < b.held k) :
    ∃ l, b.network.link? k = some l ∧ l.shares = b.held k ∧ l.unbinds = 0 := by
  have count := order.shares k
  cases found : b.network.link? k with
  | none =>
      simp only [Network.shares, found] at count
      omega
  | some l =>
      rw [Network.shares_of_link? found] at count
      exact ⟨l, rfl, count, (order.proper k l found).unbinds_of_held (count ▸ held)⟩

/-- One connection changes with its holders, and the others stay as they are. -/
theorem InOrder.modify {f : Link → Link} (order : b.InOrder) (held : 0 < b.held k)
    (network : b'.network = b.network.modifyLink k f) (others : ∀ j, j ≠ k → b'.held j = b.held j)
    (settled : ∀ l, l.shares = b.held k → l.unbinds = 0 →
      (f l).shares = b'.held k ∧ (f l).Proper) : b'.InOrder := by
  obtain ⟨l, found, shares, silent⟩ := order.holder held
  have changed : b'.network.link? k = some (f l) := by
    rw [network, Network.link?_modifyLink, if_pos rfl, found]
    rfl
  have same : ∀ j, j ≠ k → b'.network.link? j = b.network.link? j := by
    intro j other
    rw [network, Network.link?_modifyLink, if_neg (Ne.symm other)]
  constructor
  · intro j
    by_cases here : j = k
    · subst here
      rw [Network.shares_of_link? changed]
      exact (settled l shares silent).1
    · rw [others j here, ← order.shares j]
      simp only [Network.shares, same j here]
  · intro j m stands
    by_cases here : j = k
    · subst here
      obtain rfl := Option.some.inj (changed.symm.trans stands)
      exact (settled l shares silent).2
    · exact order.proper j m (same j here ▸ stands)

/-- A change of one connection that is held and stays so, or that loses no context, is quiet as
long as no unbind request is sent. -/
theorem InOrder.modify_quiet {f : Link → Link} (order : b.InOrder) (held : 0 < b.held k)
    (network : b'.network = b.network.modifyLink k f) (others : ∀ j, j ≠ k → b'.held j = b.held j)
    (contexts : ∀ j, b.contexts j = 0 → b'.contexts j = 0)
    (settled : ∀ l, l.shares = b.held k → (f l).shares = b'.held k ∧ (f l).unbinds = l.unbinds) :
    Quiet b b' := by
  have order' : b'.InOrder := order.modify held network others fun l shares silent =>
    ⟨(settled l shares).1, .inl ((settled l shares).2.trans silent)⟩
  obtain ⟨l, found, shares, silent⟩ := order.holder held
  refine ⟨order', ?_, fun j => ?_, fun j old none => ?_, fun j _ => contexts j⟩
  · rw [network]
    simp [Network.modifyLink]
  · by_cases here : j = k
    · subst here
      have changed : b'.network.link? j = some (f l) := by
        rw [network, Network.link?_modifyLink, if_pos rfl, found]
        rfl
      rw [Network.unbindsOver_of_link? changed, Network.unbindsOver_of_link? found]
      exact (settled l shares).2
    · have same : b'.network.link? j = b.network.link? j := by
        rw [network, Network.link?_modifyLink, if_neg (Ne.symm here)]
      rw [Network.unbindsOver, Network.sentOver_congr same, Network.unbindsOver]
  · have here : j ≠ k := by
      rintro rfl
      omega
    refine ⟨(others j here).trans none, ?_⟩
    rw [network, Network.link?_modifyLink, if_neg (Ne.symm here)]

/-! ### Entries -/

/-- Traffic over a connection that somebody holds. -/
theorem InOrder.talk {n : Network} (order : b.InOrder) (held : 0 < b.held k)
    (talked : b.network.Talked (some k) SentRequest.Quiet n) :
    Quiet b { b with network := n } := by
  obtain ⟨f, meet, rfl⟩ := talked
  refine order.modify_quiet held rfl (fun _ _ => rfl) (fun _ => id) fun l shares => ?_
  exact ⟨(meet l).shares.trans shares, (meet l).unbinds⟩

/-- A context lets another context share its connection. -/
theorem InOrder.lendContext (order : b.InOrder) (holds : 0 < b.contexts k) :
    Quiet b { b with
      network := b.network.along (some k) fun l => { l with shares := l.shares + 1 }
      contexts := plus b.contexts k } := by
  have held : 0 < b.held k := Nat.add_pos_left holds _
  refine order.modify_quiet held rfl (fun j other => ?_) (fun j none => ?_) fun l shares =>
    ⟨?_, rfl⟩
  · simp [Books.held, plus, other]
  · have here : j ≠ k := by
      rintro rfl
      omega
    simp [plus, here, none]
  · simp only [Books.held, plus, if_true] at shares ⊢
    omega

/-- A context lets a cursor share its connection. -/
theorem InOrder.lendCursor (order : b.InOrder) (holds : 0 < b.contexts k) :
    Quiet b { b with
      network := b.network.along (some k) fun l => { l with shares := l.shares + 1 }
      cursors := plus b.cursors k } := by
  have held : 0 < b.held k := Nat.add_pos_left holds _
  refine order.modify_quiet held rfl (fun j other => ?_) (fun _ => id) fun l shares => ⟨?_, rfl⟩
  · simp [Books.held, plus, other]
  · simp only [Books.held, plus, if_true] at shares ⊢
    omega

/-- A context is dropped. -/
theorem InOrder.dropContext (order : b.InOrder) (holds : 0 < b.contexts k) :
    Quiet b { b with
      network := b.network.along (some k) Link.dropped
      contexts := minus b.contexts k } := by
  have held : 0 < b.held k := Nat.add_pos_left holds _
  refine order.modify_quiet held rfl (fun j other => ?_) (fun j none => ?_) fun l shares =>
    ⟨?_, rfl⟩
  · simp [Books.held, minus, other]
  · simp only [minus, none]
    exact Nat.zero_sub _
  · simp only [Books.held, minus, Link.dropped, if_true] at shares ⊢
    omega

/-- A cursor is dropped. -/
theorem InOrder.dropCursor (order : b.InOrder) (holds : 0 < b.cursors k) :
    Quiet b { b with
      network := b.network.along (some k) Link.dropped
      cursors := minus b.cursors k } := by
  have held : 0 < b.held k := Nat.add_pos_right _ holds
  refine order.modify_quiet held rfl (fun j other => ?_) (fun _ => id) fun l shares => ⟨?_, rfl⟩
  · simp [Books.held, minus, other]
  · simp only [Books.held, minus, Link.dropped, if_true] at shares ⊢
    omega

/-- A connection that was not made yet is held by nobody. -/
theorem InOrder.unmade (order : b.InOrder) (new : b.network.links.length ≤ k) :
    b.network.link? k = none ∧ b.held k = 0 := by
  have absent : b.network.link? k = none := List.getElem?_eq_none new
  refine ⟨absent, ?_⟩
  rw [← order.shares k]
  simp only [Network.shares, absent]

/-- Opening: the connection that was made, if it is kept, is held by one context. -/
theorem InOrder.grow {n : Network} {opened : Option LinkId} {contexts : LinkId → Nat}
    (order : b.InOrder) (grown : b.network.Grown SentRequest.Quiet n opened)
    (counted : ∀ j, contexts j = b.contexts j + if opened = some j then 1 else 0) :
    Quiet b { b with network := n, contexts := contexts } := by
  have old : ∀ j < b.network.links.length, n.link? j = b.network.link? j := fun _ => grown.link?
  obtain ⟨new, links, quiet, kept⟩ := grown
  have made : ∀ j l, b.network.links.length ≤ j → n.link? j = some l →
      l.unbinds = 0 ∧ l.shares = if opened = some j then 1 else 0 := by
    intro j l later found
    unfold Network.link? at found
    rw [links, List.getElem?_append_right later] at found
    have among := List.mem_of_getElem? found
    refine ⟨Link.unbinds_eq_zero (quiet l among), ?_⟩
    cases opened with
    | none => exact kept l among
    | some k =>
        obtain ⟨rfl, only, rfl, share⟩ := kept
        obtain rfl := List.mem_singleton.1 among
        have place : j = b.network.links.length := by
          have inside := (List.getElem?_eq_some_iff.1 found).1
          simp only [List.length_singleton] at inside
          omega
        rw [share, place, if_pos rfl]
  have unopened : ∀ j, n.link? j = none → opened ≠ some j := by
    rintro j absent rfl
    obtain ⟨rfl, only, rfl, -⟩ := kept
    unfold Network.link? at absent
    simp [links] at absent
  have elsewhere : ∀ j < b.network.links.length, opened ≠ some j := by
    rintro j inside rfl
    exact absurd kept.1 (Nat.ne_of_lt inside)
  refine ⟨⟨fun j => ?_, fun j l found => ?_⟩, ?_, fun j => ?_,
    fun j inside none => ⟨?_, old j inside⟩,
    fun j inside none => ?_⟩
  · simp only [Books.held, counted]
    rcases Nat.lt_or_ge j b.network.links.length with inside | later
    · rw [if_neg (elsewhere j inside), Nat.add_zero]
      simp only [Network.shares, old j inside]
      exact order.shares j
    · have nobody := (order.unmade later).2
      simp only [Books.held] at nobody
      cases found : n.link? j with
      | none =>
          simp only [Network.shares, found, if_neg (unopened j found)]
          omega
      | some l =>
          simp only [Network.shares, found, (made j l later found).2]
          omega
  · rcases Nat.lt_or_ge j b.network.links.length with inside | later
    · exact order.proper j l (old j inside ▸ found)
    · exact .inl (made j l later found).1
  · rw [links, List.length_append]
    exact Nat.le_add_right _ _
  · rcases Nat.lt_or_ge j b.network.links.length with inside | later
    · rw [Network.unbindsOver, Network.sentOver_congr (old j inside), Network.unbindsOver]
    · have before : b.network.unbindsOver j = 0 := by
        simp [Network.unbindsOver, Network.sentOver, (order.unmade later).1]
      rw [before]
      cases found : n.link? j with
      | none => simp [Network.unbindsOver, Network.sentOver, found]
      | some l => exact (Network.unbindsOver_of_link? found).trans (made j l later found).1
  · simp only [Books.held, counted, if_neg (elsewhere j inside)]
    exact none
  · simp only [counted, if_neg (elsewhere j inside)]
    exact none

/-- A context gives up its share: one unbind request is sent if nobody else holds the connection
and the server listens, and none otherwise.  Everything else stays as it was. -/
theorem InOrder.depart (order : b.InOrder) (holds : 0 < b.contexts k) :
    (b.depart k).InOrder ∧
      (∀ j, j ≠ k → (b.depart k).network.link? j = b.network.link? j) ∧
      (b.depart k).network.unbindsOver k =
        if b.held k = 1 ∧ b.network.isOpen k = true then 1 else 0 := by
  have held : 0 < b.held k := Nat.add_pos_left holds _
  obtain ⟨l, found, shares, silent⟩ := order.holder held
  refine ⟨order.modify held rfl (fun j other => ?_) fun l shares silent => ⟨?_, ?_⟩,
    fun j other => ?_,
    ?_⟩
  · simp [Books.held, Books.depart, minus, other]
  · simp only [Books.held, Books.depart, minus, if_true, Link.released_shares] at shares ⊢
    omega
  · exact Link.released_proper silent
  · exact (Network.link?_modifyLink ..).trans (if_neg (Ne.symm other))
  · have changed : (b.depart k).network.link? k = some l.released := by
      change (b.network.modifyLink k Link.released).link? k = _
      rw [Network.link?_modifyLink, if_pos rfl, found]
      rfl
    have opened : b.network.isOpen k = l.isOpen := by simp only [Network.isOpen, found]
    rw [Network.unbindsOver_of_link? changed, Link.released_unbinds, silent, shares, opened,
      Nat.zero_add]

end Books

end ManagedLdap
