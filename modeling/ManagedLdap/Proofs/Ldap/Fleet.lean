/-
# ManagedLdap.Proofs.Ldap.Fleet -- contexts and cursors that share connections

A `Fleet` is any number of contexts and search cursors over a network.  Contexts are opened,
asked for anything, closed and dropped; cursors are pulled from, closed and dropped; whatever
is handed out joins the fleet.  Servers answer as they like.

A move either is quiet (`step_quiet`) or makes one context depart from its connection, by
closing or by reconnecting (`departure`).  So the books on who holds which connection are in
order along every run (`run_sound`), a connection that nobody holds is left alone for good
(`run_unheld`), and one that lost its last context gets neither another context nor an unbind
request (`run_departed`).
-/
import ManagedLdap.Proofs.Ldap.Shares

namespace ManagedLdap

set_option autoImplicit false

/-! ## Fleets and their moves -/

/-- Contexts and cursors over one network, in the order they were made; none where one was
dropped. -/
structure Fleet (κ : Type) where
  contexts : List (Option LdapDirContext)
  cursors : List (Option SearchCursor)
  world : World κ

/-- What can be done with a fleet.  Opening a context is what connecting comes to, and also
what following a referral comes to. -/
inductive Move where
  | openAt (url base : String) (config : LdapConfig) (credentials : Credentials)
      (env : Environment) (connectControls : List Control)
  | perform (i : Nat) (op : Op)
  | close (i : Nat)
  | drop (i : Nat)
  | hasMore (j : Nat)
  | next (j : Nat)
  | closeCursor (j : Nat)
  | dropCursor (j : Nat)
  /-- Another socket factory comes into effect. -/
  | withSlot (slot : Slot)

namespace Fleet

variable {κ : Type}

/-- A network without connections, and nobody there to use it. -/
def fresh (w : World κ) : Fleet κ :=
  { contexts := [], cursors := [], world := { w with network := { w.network with links := [] } } }

/-- What was handed out joins the fleet. -/
def join (f : Fleet κ) : Except Failure (Reply LdapDirContext SearchCursor) → Fleet κ
  | .ok (.context c) => { f with contexts := f.contexts ++ [some c] }
  | .ok (.entries cursor) => { f with cursors := f.cursors ++ [some cursor] }
  | _ => f

/-- A call of the context of a place, if it is there. -/
def onContext {α : Type} (f : Fleet κ) (i : Nat) (x : Act κ LdapDirContext α) :
    Option (Except Failure α) × Fleet κ :=
  match f.contexts[i]? with
  | some (some c) =>
      let (r, c, w) := x c f.world
      (some r, { f with contexts := f.contexts.set i (some c), world := w })
  | _ => (none, f)

/-- A call of the cursor of a place, if it is there. -/
def onCursor {α : Type} (f : Fleet κ) (j : Nat) (x : Act κ SearchCursor α) : Fleet κ :=
  match f.cursors[j]? with
  | some (some cursor) =>
      let (_, cursor, w) := x cursor f.world
      { f with cursors := f.cursors.set j (some cursor), world := w }
  | _ => f

/-- Make a move. -/
def step (f : Fleet κ) : Move → Fleet κ
  | .openAt url base config credentials env connectControls =>
      match LdapDirContext.openAt url base config credentials env connectControls () f.world with
      | (r, _, w) => join { f with world := w } (r.map .context)
  | .perform i op =>
      match f.onContext i (LdapDirContext.perform op) with
      | (some r, f) => f.join r
      | (none, f) => f
  | .close i => (f.onContext i LdapDirContext.close).2
  | .drop i =>
      match f.contexts[i]? with
      | some (some c) => { f with contexts := f.contexts.set i none, world := c.discard f.world }
      | _ => f
  | .hasMore j => f.onCursor j SearchCursor.hasMore
  | .next j => f.onCursor j SearchCursor.next
  | .closeCursor j => f.onCursor j SearchCursor.close
  | .dropCursor j =>
      match f.cursors[j]? with
      | some (some cursor) =>
          { f with cursors := f.cursors.set j none, world := cursor.discard f.world }
      | _ => f
  | .withSlot slot => { f with world := { f.world with slot := slot } }

/-- Make moves in order. -/
def run (f : Fleet κ) (moves : List Move) : Fleet κ := moves.foldl step f

theorem run_append (f : Fleet κ) (xs ys : List Move) : f.run (xs ++ ys) = (f.run xs).run ys :=
  List.foldl_append

/-- Whether a context is there and on this connection. -/
def isOn (k : LinkId) (c : Option LdapDirContext) : Bool :=
  c.any fun c => c.connection == some k

/-- Whether a cursor is there and over this connection. -/
def isOver (k : LinkId) (c : Option SearchCursor) : Bool := c.any fun c => c.link == k

/-- How many contexts are on a connection. -/
def contextsOn (f : Fleet κ) (k : LinkId) : Nat := f.contexts.countP (isOn k)

/-- How many cursors are over a connection. -/
def cursorsOver (f : Fleet κ) (k : LinkId) : Nat := f.cursors.countP (isOver k)

/-- How many contexts and cursors hold a connection. -/
def holders (f : Fleet κ) (k : LinkId) : Nat := f.contextsOn k + f.cursorsOver k

/-- What was sent over a connection. -/
def sentOver (f : Fleet κ) (k : LinkId) : List SentRequest := f.world.network.sentOver k

/-- How many unbind requests were sent over a connection. -/
def unbindsOver (f : Fleet κ) (k : LinkId) : Nat := f.world.network.unbindsOver k

/-- The books of a fleet. -/
def books (f : Fleet κ) : Books := ⟨f.world.network, f.contextsOn, f.cursorsOver⟩

/-- The books are in order, and no cursor reads over another connection than its own. -/
structure Sound (f : Fleet κ) : Prop where
  inOrder : f.books.InOrder
  cursors : ∀ cursor, some cursor ∈ f.cursors → ∃ controls, cursor.Over cursor.link controls

/-- A move is a departure of a context that leaves a connection, by closing or reconnecting. -/
def Departs (f : Fleet κ) (m : Move) (k : LinkId) : Prop :=
  ∃ i c, f.contexts[i]? = some (some c) ∧ c.connection = some k ∧
    (m = .close i ∨ ∃ controls, m = .perform i (.reconnect controls) ∧
      (LdapDirContext.reconnect controls c f.world).1.isOk)

/-! ## Counting holders -/

theorem countP_set {α : Type} {p : α → Bool} {xs : List α} {i : Nat} {a : α}
    (found : xs[i]? = some a) (b : α) :
    (xs.set i b).countP p + (if p a then 1 else 0) = xs.countP p + if p b then 1 else 0 := by
  obtain ⟨inside, rfl⟩ := List.getElem?_eq_some_iff.1 found
  have counted := List.boole_getElem_le_countP (p := p) inside
  rw [List.countP_set inside]
  omega

@[simp] theorem isOn_some (k : LinkId) (c : LdapDirContext) :
    isOn k (some c) = true ↔ c.connection = some k := by
  simp [isOn]

@[simp] theorem isOn_none (k : LinkId) : isOn k none = false := rfl

@[simp] theorem isOver_some (k : LinkId) (c : SearchCursor) :
    isOver k (some c) = true ↔ c.link = k := by
  simp [isOver]

theorem contextsOn_pos {f : Fleet κ} {i : Nat} {c : LdapDirContext} {k : LinkId}
    (found : f.contexts[i]? = some (some c)) (on : c.connection = some k) : 0 < f.contextsOn k :=
  List.countP_pos_iff.2 ⟨_, List.mem_of_getElem? found, (isOn_some k c).2 on⟩

theorem cursorsOver_pos {f : Fleet κ} {j : Nat} {cursor : SearchCursor}
    (found : f.cursors[j]? = some (some cursor)) : 0 < f.cursorsOver cursor.link :=
  List.countP_pos_iff.2 ⟨_, List.mem_of_getElem? found, (isOver_some _ cursor).2 rfl⟩

/-- A context in the place of another one that is on the same connection. -/
theorem contextsOn_set_same {f : Fleet κ} {i : Nat} {c c' : LdapDirContext}
    (found : f.contexts[i]? = some (some c)) (same : c'.connection = c.connection) :
    (fun k => (f.contexts.set i (some c')).countP (isOn k)) = f.contextsOn := by
  funext k
  have counted := countP_set (p := isOn k) found (some c')
  simp only [isOn_some, same] at counted
  exact Nat.add_right_cancel counted

/-- A context leaves its connection, for another one or for none. -/
theorem contextsOn_set_moved {f : Fleet κ} {i : Nat} {c : LdapDirContext} {k : LinkId}
    {next : Option LdapDirContext} {count : LinkId → Nat}
    (found : f.contexts[i]? = some (some c)) (on : c.connection = some k)
    (counted : ∀ j, count j = f.contextsOn j + if isOn j next then 1 else 0) :
    (fun j => (f.contexts.set i next).countP (isOn j)) = Books.minus count k := by
  funext j
  have change := countP_set (p := isOn j) found next
  simp only [isOn_some, on, Option.some.injEq] at change
  simp only [Books.minus, counted, contextsOn, eq_comm (a := j)]
  omega

/-- A context that held no connection leaves none. -/
theorem contextsOn_set_idle {f : Fleet κ} {i : Nat} {c : LdapDirContext}
    {next : Option LdapDirContext} {count : LinkId → Nat}
    (found : f.contexts[i]? = some (some c)) (idle : c.connection = none)
    (counted : ∀ j, count j = f.contextsOn j + if isOn j next then 1 else 0) :
    (fun j => (f.contexts.set i next).countP (isOn j)) = count := by
  funext j
  have change := countP_set (p := isOn j) found next
  simp only [isOn_some, idle, reduceCtorEq, if_false] at change
  rw [counted]
  exact change

/-- A cursor leaves its connection. -/
theorem cursorsOver_set_none {f : Fleet κ} {j : Nat} {cursor : SearchCursor}
    (found : f.cursors[j]? = some (some cursor)) :
    (fun k => (f.cursors.set j none).countP (isOver k)) =
      Books.minus f.cursorsOver cursor.link := by
  funext k
  have change := countP_set (p := isOver k) found none
  simp only [isOver_some] at change
  simp only [Books.minus, cursorsOver, eq_comm (a := k)]
  simp only [isOver, Option.any_none, Bool.false_eq_true, if_false] at change ⊢
  omega

theorem cursorsOver_set_same {f : Fleet κ} {j : Nat} {cursor cursor' : SearchCursor}
    (found : f.cursors[j]? = some (some cursor)) (same : cursor'.link = cursor.link) :
    (fun k => (f.cursors.set j (some cursor')).countP (isOver k)) = f.cursorsOver := by
  funext k
  have counted := countP_set (p := isOver k) found (some cursor')
  simp only [isOver_some, same] at counted
  exact Nat.add_right_cancel counted

/-! ## What one move does -/

open Books (Quiet)

/-- Traffic over a line that is held is quiet, and without a line there is none. -/
theorem quiet_talk {b : Books} {w w' : World κ} {line : Option LinkId} {P : SentRequest → Prop}
    (order : b.InOrder) (here : b.network = w.network) (held : ∀ k, line = some k → 0 < b.held k)
    (silent : ∀ r, P r → r.Quiet) (talked : World.Talked line P w w') :
    Quiet b { b with network := w'.network } := by
  have heard := talked.network.mono silent
  cases line with
  | none =>
      rw [heard.silent, ← here]
      exact .refl order
  | some k => exact order.talk (held k rfl) (here ▸ heard)

theorem onContext_found {α : Type} {f : Fleet κ} {i : Nat} {c : LdapDirContext}
    (found : f.contexts[i]? = some (some c)) (x : Act κ LdapDirContext α) :
    f.onContext i x = (some (x c f.world).1,
      { f with
        contexts := f.contexts.set i (some (x c f.world).2.1)
        world := (x c f.world).2.2 }) := by
  simp only [onContext, found]

theorem onContext_cases {α : Type} (f : Fleet κ) (i : Nat) (x : Act κ LdapDirContext α) :
    f.onContext i x = (none, f) ∨ ∃ c, f.contexts[i]? = some (some c) ∧
      f.onContext i x = (some (x c f.world).1,
        { f with
          contexts := f.contexts.set i (some (x c f.world).2.1)
          world := (x c f.world).2.2 }) := by
  unfold onContext
  split
  · next c found => exact .inr ⟨c, found, rfl⟩
  · exact .inl rfl

theorem onCursor_cases {α : Type} (f : Fleet κ) (j : Nat) (x : Act κ SearchCursor α) :
    f.onCursor j x = f ∨ ∃ cursor, f.cursors[j]? = some (some cursor) ∧ f.onCursor j x =
      { f with
        cursors := f.cursors.set j (some (x cursor f.world).2.1)
        world := (x cursor f.world).2.2 } := by
  unfold onCursor
  split
  · next cursor found => exact .inr ⟨cursor, found, rfl⟩
  · exact .inl rfl

theorem onCursor_contexts {α : Type} (f : Fleet κ) (j : Nat) (x : Act κ SearchCursor α) :
    (f.onCursor j x).contexts = f.contexts := by
  rcases f.onCursor_cases j x with idle | ⟨cursor, -, done⟩
  · rw [idle]
  · rw [done]

theorem books_joinContext (f : Fleet κ) (child : LdapDirContext) :
    (f.join (.ok (.context child))).books = { f.books with
      contexts := fun k => f.contextsOn k + if child.connection = some k then 1 else 0 } := by
  have counts : (f.join (.ok (.context child))).contextsOn =
      fun k => f.contextsOn k + if child.connection = some k then 1 else 0 := by
    funext k
    simp only [join, contextsOn, List.countP_append, List.countP_singleton, isOn_some]
  simp only [books, counts]
  rfl

theorem books_joinCursor (f : Fleet κ) (cursor : SearchCursor) :
    (f.join (.ok (.entries cursor))).books =
      { f.books with cursors := Books.plus f.cursorsOver cursor.link } := by
  have counts : (f.join (.ok (.entries cursor))).cursorsOver =
      Books.plus f.cursorsOver cursor.link := by
    funext k
    simp only [join, cursorsOver, List.countP_append, List.countP_singleton, isOver_some,
      Books.plus, eq_comm (a := k)]
  simp only [books, counts]
  rfl

/-- What was handed out after the traffic of a call joins the fleet with its share. -/
theorem join_quiet {f : Fleet κ} {c : LdapDirContext} {w : World κ}
    {r : Except Failure (Reply LdapDirContext SearchCursor)} (order : f.books.InOrder)
    (holds : ∀ k, c.connection = some k → 0 < f.contextsOn k)
    {op : Op}
    (ends : Act.Ends c.connection LdapDirContext.held (LdapDirContext.Handed c op) f.world r w) :
    Quiet f.books (join { f with world := w } r).books := by
  rcases r with failure | reply
  · obtain rfl := ends
    exact .refl order
  · obtain ⟨line, handed, rfl⟩ := ends
    cases reply with
    | context child =>
        obtain ⟨base, made⟩ := handed
        have same : child.connection = c.connection := by rw [made]
        rw [books_joinContext]
        simp only [LdapDirContext.held, same]
        cases on : c.connection with
        | none => exact .refl order
        | some k =>
            have counts : (fun j => f.contextsOn j + if some k = some j then 1 else 0) =
                Books.plus f.contextsOn k := by
              funext j
              simp only [Books.plus, Option.some.injEq, eq_comm (a := k)]
            have lent : Quiet f.books { f.books with
                network := (f.world.holding (some k)).network
                contexts := Books.plus f.contextsOn k } := order.lendContext (holds k on)
            rw [← counts] at lent
            exact lent
    | entries cursor =>
        rw [books_joinCursor]
        exact order.lendCursor (holds cursor.link handed.link)
    | _ => exact .refl order

/-- What becomes of the books when a context is asked for anything but to reconnect. -/
theorem perform_quiet {f : Fleet κ} (order : f.books.InOrder) (i : Nat) {op : Op}
    (stays : op.opensConnection = false) : Quiet f.books (f.step (.perform i op)).books := by
  simp only [step]
  rcases f.onContext_cases i (LdapDirContext.perform op) with idle | ⟨c, found, done⟩
  · rw [idle]
    exact .refl order
  · rw [done]
    obtain ⟨same, w₁, talked, ends⟩ := LdapDirContext.perform_shares stays c f.world
    generalize LdapDirContext.perform op c f.world = x at same ends ⊢
    obtain ⟨r, c', w'⟩ := x
    have holds : ∀ k, c.connection = some k → 0 < f.contextsOn k :=
      fun k on => contextsOn_pos found on
    have during : Quiet f.books { f.books with network := w₁.network } :=
      quiet_talk order rfl (fun k on => Nat.add_pos_left (holds k on) _)
        (fun _ => SentRequest.Bears.quiet) talked
    let g : Fleet κ := { f with contexts := f.contexts.set i (some c'), world := w₁ }
    have counts : g.contextsOn = f.contextsOn := contextsOn_set_same found same
    have between : g.books = { f.books with network := w₁.network } := by
      simp only [books, counts]
      rfl
    have after : Quiet g.books (join { g with world := w' } r).books :=
      join_quiet (between ▸ during.inOrder) (fun k on => counts ▸ holds k on) ends
    exact during.trans (between ▸ after)

theorem openAt_quiet {f : Fleet κ} (order : f.books.InOrder) (url base : String)
    (config : LdapConfig) (credentials : Credentials) (env : Environment)
    (connectControls : List Control) :
    Quiet f.books (f.step (.openAt url base config credentials env connectControls)).books := by
  have silent : ∀ r, SentRequest.Begins credentials connectControls r → r.Quiet :=
    fun _ => SentRequest.Begins.quiet
  simp only [step]
  rcases LdapDirContext.openAt_network url base config credentials env connectControls () f.world
    with ⟨failure, w', failed, grown⟩ | ⟨c, k, w', opened, on, grown⟩
  · rw [failed]
    exact order.grow (grown.mono silent) fun _ => rfl
  · rw [opened]
    refine (books_joinContext _ c).symm ▸ order.grow (grown.mono silent) fun j => ?_
    rw [on]
    rfl

theorem onCursor_quiet {f : Fleet κ} (sound : f.Sound) (j : Nat) {α : Type}
    {x : Act κ SearchCursor α} (talks : ∀ k controls, ∃ P, (∀ r, P r → r.Quiet) ∧
      Act.Talks (some k) P (SearchCursor.Over k controls) (fun _ => True) x) :
    Quiet f.books (f.onCursor j x).books ∧ (f.onCursor j x).Sound := by
  rcases f.onCursor_cases j x with idle | ⟨cursor, found, done⟩
  · rw [idle]
    exact ⟨.refl sound.inOrder, sound⟩
  · rw [done]
    obtain ⟨controls, lies⟩ := sound.cursors cursor (List.mem_of_getElem? found)
    obtain ⟨P, silent, talk⟩ := talks cursor.link controls
    obtain ⟨lies', talked, -⟩ := talk cursor f.world lies
    generalize x cursor f.world = y at lies' talked ⊢
    obtain ⟨r, cursor', w'⟩ := y
    have during : Quiet f.books { f.books with network := w'.network } := by
      refine quiet_talk sound.inOrder rfl (fun k line => ?_) silent talked
      obtain rfl := Option.some.inj line
      exact Nat.add_pos_right _ (cursorsOver_pos found)
    have counts := cursorsOver_set_same found lies'.link
    have after : books { f with cursors := f.cursors.set j (some cursor'), world := w' } =
        { f.books with network := w'.network } := by
      simp only [books, ← counts]
      rfl
    refine ⟨after ▸ during, after ▸ during.inOrder, fun c among => ?_⟩
    rcases List.mem_or_eq_of_mem_set among with old | new
    · exact sound.cursors c old
    · obtain rfl := Option.some.inj new
      exact ⟨controls, lies'.link.symm ▸ lies'⟩

theorem drop_quiet {f : Fleet κ} (order : f.books.InOrder) (i : Nat) :
    Quiet f.books (f.step (.drop i)).books := by
  simp only [step]
  split
  · next c found =>
      have nobody : ∀ j, f.contextsOn j = f.contextsOn j + if isOn j none then 1 else 0 :=
        fun j => rfl
      have network := c.discard_network f.world
      cases on : c.connection with
      | none =>
          have counts := contextsOn_set_idle found on nobody
          rw [on] at network
          have after :
              books { f with contexts := f.contexts.set i none, world := c.discard f.world } =
              f.books := by
            simp only [books, network, ← counts]
            rfl
          rw [after]
          exact .refl order
      | some k =>
          have counts := contextsOn_set_moved found on nobody
          rw [on] at network
          have after :
              books { f with contexts := f.contexts.set i none, world := c.discard f.world } =
              { f.books with
                network := f.world.network.along (some k) Link.dropped
                contexts := Books.minus f.contextsOn k } := by
            simp only [books, network, ← counts]
            rfl
          exact after ▸ order.dropContext (contextsOn_pos found on)
  · exact .refl order

theorem dropCursor_quiet {f : Fleet κ} (order : f.books.InOrder) (j : Nat) :
    Quiet f.books (f.step (.dropCursor j)).books := by
  simp only [step]
  split
  · next cursor found =>
      have counts := cursorsOver_set_none found
      have after : books { f with cursors := f.cursors.set j none,
                                  world := cursor.discard f.world } =
          { f.books with
            network := f.world.network.along (some cursor.link) Link.dropped
            cursors := Books.minus f.cursorsOver cursor.link } := by
        simp only [books, ← counts]
        rfl
      exact after ▸ order.dropCursor (cursorsOver_pos found)
  · exact .refl order

/-- What becomes of the books when a context is closed. -/
theorem close_books {f : Fleet κ} {i : Nat} {c : LdapDirContext}
    (found : f.contexts[i]? = some (some c)) :
    (f.step (.close i)).books = c.connection.elim f.books f.books.depart := by
  obtain ⟨w', closed, network⟩ := c.close_network f.world
  have nobody : ∀ j, f.contextsOn j = f.contextsOn j +
      if isOn j (some { c with connection := none }) then 1 else 0 := fun j => rfl
  simp only [step, onContext_found found, closed]
  cases on : c.connection with
  | none =>
      have counts := contextsOn_set_idle found on nobody
      rw [on] at network
      simp only [books, network, Option.elim, ← counts]
      rfl
  | some k =>
      have counts := contextsOn_set_moved found on nobody
      rw [on] at network
      simp only [books, network, Option.elim, Books.depart, ← counts]
      rfl

/-- Nothing happened to the connections that were there, nor to the contexts on them. -/
def Apart (f : Fleet κ) (b : Books) : Prop :=
  ∀ k < f.world.network.links.length,
    b.network.link? k = f.world.network.link? k ∧ b.contexts k = f.contextsOn k

/-- What becomes of the books when a context reconnects: it stays where it is, or it opens a
connection and then departs from the one it had. -/
theorem reconnect_books {f : Fleet κ} (order : f.books.InOrder) {i : Nat} {c : LdapDirContext}
    (found : f.contexts[i]? = some (some c)) (controls : List Control) :
    ∃ b : Books, Quiet f.books b ∧ b.cursors = f.cursorsOver ∧ f.Apart b ∧
      (f.step (.perform i (.reconnect controls))).books =
        if (LdapDirContext.reconnect controls c f.world).1.isOk then c.connection.elim b b.depart
        else b := by
  have silent : ∀ r, SentRequest.Begins c.credentials controls r → r.Quiet :=
    fun _ => SentRequest.Begins.quiet
  rcases c.reconnect_network controls f.world with
    ⟨failure, w', failed, grown⟩ | ⟨k, n, w', moved, grown, network⟩
  · have counts := contextsOn_set_same found (rfl : c.connection = c.connection)
    have after : books { f with contexts := f.contexts.set i (some c), world := w' } =
        { f.books with network := w'.network } := by
      simp only [books, ← counts]
      rfl
    refine ⟨{ f.books with network := w'.network },
      order.grow (grown.mono silent) fun _ => rfl, rfl,
      fun j old => ⟨grown.link? old, rfl⟩, ?_⟩
    simp only [step, onContext_found found, LdapDirContext.perform_reconnect, failed]
    exact after
  · let moved' : LdapDirContext := { c with connectControls := controls, connection := some k }
    let count : LinkId → Nat := fun j => f.contextsOn j + if some k = some j then 1 else 0
    have counted : ∀ j, count j = f.contextsOn j + if isOn j (some moved') then 1 else 0 := by
      intro j
      simp only [isOn_some]
      rfl
    refine ⟨{ f.books with network := n, contexts := count },
      order.grow (grown.mono silent) fun _ => rfl, rfl, fun j old => ⟨grown.link? old, ?_⟩, ?_⟩
    · have new : some k ≠ some j := by
        rintro same
        obtain rfl := Option.some.inj same
        exact absurd grown.newest.1 (Nat.ne_of_lt old)
      simp only [count, if_neg new, Nat.add_zero]
    · simp only [step, onContext_found found, LdapDirContext.perform_reconnect, moved]
      change books { f with contexts := f.contexts.set i (some moved'), world := w' } = _
      cases on : c.connection with
      | none =>
          have counts := contextsOn_set_idle found on counted
          rw [on] at network
          simp only [books, network, Option.elim, ← counts]
          rfl
      | some previous =>
          have counts := contextsOn_set_moved found on counted
          rw [on] at network
          simp only [books, network, Option.elim, Books.depart, ← counts]
          rfl

/-- A departure: whatever goes before it stays apart from what was there. -/
theorem step_departs {f : Fleet κ} (order : f.books.InOrder) {m : Move} {k : LinkId}
    (departs : f.Departs m k) :
    ∃ b : Books, Quiet f.books b ∧ b.cursors = f.cursorsOver ∧ f.Apart b ∧
      (f.step m).books = b.depart k := by
  obtain ⟨i, c, found, on, rfl | ⟨controls, rfl, moved⟩⟩ := departs
  · have after := close_books found
    rw [on] at after
    exact ⟨f.books, .refl order, rfl, fun _ _ => ⟨rfl, rfl⟩, after⟩
  · obtain ⟨b, quiet, cursors, apart, after⟩ := reconnect_books order found controls
    rw [if_pos moved, on] at after
    exact ⟨b, quiet, cursors, apart, after⟩

/-- Any other move is quiet. -/
theorem step_quiet {f : Fleet κ} (sound : f.Sound) {m : Move} (stays : ∀ k, ¬ f.Departs m k) :
    Quiet f.books (f.step m).books := by
  have order := sound.inOrder
  cases m with
  | openAt url base config credentials env connectControls => exact openAt_quiet order ..
  | perform i op =>
      cases opens : op.opensConnection with
      | false => exact perform_quiet order i opens
      | true =>
          cases op with
          | reconnect controls =>
              rcases f.onContext_cases i (LdapDirContext.perform (.reconnect controls)) with
                idle | ⟨c, found, -⟩
              · simp only [step, idle]
                exact .refl order
              · obtain ⟨b, quiet, -, -, after⟩ := reconnect_books order found controls
                by_cases moved : (LdapDirContext.reconnect controls c f.world).1.isOk
                · cases on : c.connection with
                  | none =>
                      rw [if_pos moved, on] at after
                      exact after ▸ quiet
                  | some k =>
                      exact absurd ⟨i, c, found, on, .inr ⟨controls, rfl, moved⟩⟩ (stays k)
                · rw [if_neg moved] at after
                  exact after ▸ quiet
          | _ => cases opens
  | close i =>
      rcases f.onContext_cases i LdapDirContext.close with idle | ⟨c, found, -⟩
      · simp only [step, idle]
        exact .refl order
      · have after := close_books found
        cases on : c.connection with
        | none =>
            rw [on] at after
            exact after ▸ .refl order
        | some k => exact absurd ⟨i, c, found, on, .inl rfl⟩ (stays k)
  | drop i => exact drop_quiet order i
  | hasMore j =>
      exact (onCursor_quiet sound j fun k controls =>
        ⟨_, fun _ => SentRequest.Operates.quiet, SearchCursor.hasMore_reads⟩).1
  | next j =>
      exact (onCursor_quiet sound j fun k controls =>
        ⟨_, fun _ => SentRequest.Operates.quiet, SearchCursor.next_reads⟩).1
  | closeCursor j =>
      exact (onCursor_quiet sound j fun k controls =>
        ⟨_, fun _ => SentRequest.Operates.quiet, SearchCursor.close_reads⟩).1
  | dropCursor j => exact dropCursor_quiet order j
  | withSlot slot => exact .refl order

theorem join_world (f : Fleet κ) (r : Except Failure (Reply LdapDirContext SearchCursor)) :
    (f.join r).world = f.world := by
  unfold join
  split <;> rfl

theorem mem_join_cursors {f : Fleet κ} {r : Except Failure (Reply LdapDirContext SearchCursor)}
    {cursor : SearchCursor} (among : some cursor ∈ (f.join r).cursors) :
    some cursor ∈ f.cursors ∨ r = .ok (.entries cursor) := by
  unfold join at among
  split at among
  · exact .inl among
  · rcases List.mem_append.1 among with old | new
    · exact .inl old
    · obtain rfl := Option.some.inj (List.mem_singleton.1 new)
      exact .inr rfl
  · exact .inl among

/-- A cursor that is handed out reads over the connection of its context. -/
theorem perform_over {op : Op} {c : LdapDirContext} {w : World κ} {cursor : SearchCursor}
    (handed : (LdapDirContext.perform op c w).1 = .ok (.entries cursor)) :
    cursor.Over cursor.link c.requestControls := by
  cases opens : op.opensConnection with
  | false =>
      obtain ⟨-, w₁, -, ends⟩ := LdapDirContext.perform_shares opens c w
      rw [handed] at ends
      exact ends.2.1.keeps.lies
  | true =>
      cases op with
      | reconnect controls =>
          simp only [LdapDirContext.perform, Act.bind_apply] at handed
          split at handed
          · cases handed
          · cases handed
      | _ => cases opens

/-- Cursors read over the connection they hold, those that are handed out included. -/
theorem step_cursors {f : Fleet κ} (sound : f.Sound) (m : Move) (cursor : SearchCursor)
    (among : some cursor ∈ (f.step m).cursors) : ∃ controls, cursor.Over cursor.link controls := by
  cases m with
  | openAt url base config credentials env connectControls =>
      refine sound.cursors cursor ?_
      simp only [step] at among
      rcases mem_join_cursors among with old | new
      · exact old
      · generalize (LdapDirContext.openAt _ _ _ _ _ _ () f.world).1 = r at new
        cases r with
        | error failure => cases new
        | ok c => cases new
  | perform i op =>
      simp only [step] at among
      rcases f.onContext_cases i (LdapDirContext.perform op) with idle | ⟨c, found, done⟩
      · rw [idle] at among
        exact sound.cursors cursor among
      · rw [done] at among
        rcases mem_join_cursors among with old | handed
        · exact sound.cursors cursor old
        · exact ⟨_, perform_over handed⟩
  | close i =>
      refine sound.cursors cursor ?_
      simp only [step] at among
      rcases f.onContext_cases i LdapDirContext.close with idle | ⟨c, found, done⟩
      · rwa [idle] at among
      · rwa [done] at among
  | drop i =>
      refine sound.cursors cursor ?_
      simp only [step] at among
      split at among
      · exact among
      · exact among
  | hasMore j =>
      exact (onCursor_quiet sound j fun k controls =>
        ⟨_, fun _ => SentRequest.Operates.quiet, SearchCursor.hasMore_reads⟩).2.cursors cursor among
  | next j =>
      exact (onCursor_quiet sound j fun k controls =>
        ⟨_, fun _ => SentRequest.Operates.quiet, SearchCursor.next_reads⟩).2.cursors cursor among
  | closeCursor j =>
      exact (onCursor_quiet sound j fun k controls =>
        ⟨_, fun _ => SentRequest.Operates.quiet, SearchCursor.close_reads⟩).2.cursors cursor among
  | dropCursor j =>
      refine sound.cursors cursor ?_
      simp only [step] at among
      split at among
      · rcases List.mem_or_eq_of_mem_set among with old | new
        · exact old
        · cases new
      · exact among
  | withSlot slot => exact sound.cursors cursor among

theorem Departs.holds {f : Fleet κ} {m : Move} {k : LinkId} (departs : f.Departs m k) :
    0 < f.contextsOn k := by
  obtain ⟨i, c, found, on, -⟩ := departs
  exact contextsOn_pos found on

theorem Sound.made {f : Fleet κ} (sound : f.Sound) {k : LinkId} (held : 0 < f.holders k) :
    k < f.world.network.links.length := by
  obtain ⟨l, found, -⟩ := sound.inOrder.holder held
  exact Network.link?_lt found

/-- A departure, connection by connection. -/
theorem departure {f : Fleet κ} (sound : f.Sound) {m : Move} {k : LinkId}
    (departs : f.Departs m k) :
    (f.step m).books.InOrder ∧
      f.world.network.links.length ≤ (f.step m).world.network.links.length ∧
      (f.step m).contextsOn k = f.contextsOn k - 1 ∧ (f.step m).cursorsOver k = f.cursorsOver k ∧
      (f.step m).world.network.link? k = (f.world.network.link? k).map Link.released ∧
      ((f.step m).unbindsOver k =
        if f.holders k = 1 ∧ f.world.network.isOpen k = true then 1 else 0) ∧
      ∀ j, j ≠ k → (f.step m).unbindsOver j = f.unbindsOver j ∧
        (j < f.world.network.links.length →
          (f.step m).world.network.link? j = f.world.network.link? j ∧
            (f.step m).contextsOn j = f.contextsOn j ∧
            (f.step m).cursorsOver j = f.cursorsOver j) := by
  have old := sound.made (Nat.add_pos_left departs.holds _)
  obtain ⟨b, quiet, cursors, apart, after⟩ := step_departs sound.inOrder departs
  obtain ⟨link, contexts⟩ := apart k old
  have holds : 0 < b.contexts k := contexts ▸ departs.holds
  obtain ⟨order, others, unbinds⟩ := quiet.inOrder.depart holds
  have network : (f.step m).world.network = (b.depart k).network := congrArg Books.network after
  have contextsOn : (f.step m).contextsOn = (b.depart k).contexts := congrArg Books.contexts after
  have cursorsOver : (f.step m).cursorsOver = b.cursors := congrArg Books.cursors after
  refine ⟨after ▸ order, ?_, ?_, ?_, ?_, ?_, fun j other => ⟨?_, fun old => ⟨?_, ?_, ?_⟩⟩⟩
  · rw [network]
    refine Nat.le_trans quiet.made (Nat.le_of_eq ?_)
    simp [Books.depart, Network.modifyLink]
  · rw [contextsOn]
    simp only [Books.depart, Books.minus, if_true, contexts]
  · rw [cursorsOver, cursors]
  · rw [network, ← link]
    exact (Network.link?_modifyLink ..).trans (if_pos rfl)
  · have held : b.held k = f.holders k := by
      simp only [Books.held, holders, contexts, cursors]
    have opened : b.network.isOpen k = f.world.network.isOpen k := by
      simp only [Network.isOpen, link]
    rw [unbindsOver, network, unbinds, held, opened]
  · rw [unbindsOver, network, Network.unbindsOver, Network.sentOver_congr (others j other)]
    exact quiet.unbinds j
  · rw [network, others j other]
    exact (apart j old).1
  · rw [contextsOn]
    simp only [Books.depart, Books.minus, if_neg other, (apart j old).2]
    rfl
  · rw [cursorsOver, cursors]

theorem step_sound {f : Fleet κ} (sound : f.Sound) (m : Move) : (f.step m).Sound := by
  refine ⟨?_, step_cursors sound m⟩
  by_cases departs : ∃ k, f.Departs m k
  · obtain ⟨k, departs⟩ := departs
    exact (departure sound departs).1
  · exact (step_quiet sound fun k departing => departs ⟨k, departing⟩).inOrder

theorem run_sound {f : Fleet κ} (sound : f.Sound) (moves : List Move) : (f.run moves).Sound := by
  induction moves generalizing f with
  | nil => exact sound
  | cons m rest ih => exact ih (step_sound sound m)

theorem fresh_sound (w : World κ) : (fresh w).Sound := by
  refine ⟨⟨fun k => rfl, fun k l found => ?_⟩, fun cursor among => ?_⟩
  · cases found
  · cases among

/-- What nobody holds stays as it is, and a connection without contexts gets none. -/
theorem step_stays {f : Fleet κ} (sound : f.Sound) (m : Move) {k : LinkId}
    (old : k < f.world.network.links.length) :
    k < (f.step m).world.network.links.length ∧
      (f.holders k = 0 → (f.step m).holders k = 0 ∧ (f.step m).sentOver k = f.sentOver k) ∧
      (f.contextsOn k = 0 →
        (f.step m).contextsOn k = 0 ∧ (f.step m).unbindsOver k = f.unbindsOver k) := by
  by_cases departs : ∃ j, f.Departs m j
  · obtain ⟨j, departs⟩ := departs
    obtain ⟨-, made, -, -, -, -, others⟩ := departure sound departs
    refine ⟨Nat.lt_of_lt_of_le old made, fun nobody => ?_, fun none => ?_⟩
    · have other : k ≠ j := by
        rintro rfl
        have holds := departs.holds
        simp only [holders] at nobody
        omega
      obtain ⟨link, contexts, cursors⟩ := (others k other).2 old
      refine ⟨?_, Network.sentOver_congr link⟩
      rw [holders, contexts, cursors]
      exact nobody
    · have other : k ≠ j := by
        rintro rfl
        exact absurd none (Nat.pos_iff_ne_zero.1 departs.holds)
      exact ⟨((others k other).2 old).2.1.trans none, (others k other).1⟩
  · have quiet := step_quiet sound fun k departing => departs ⟨k, departing⟩
    refine ⟨Nat.lt_of_lt_of_le old quiet.made, fun nobody => ?_, fun none => ?_⟩
    · obtain ⟨still, link⟩ := quiet.unheld k old nobody
      exact ⟨still, Network.sentOver_congr link⟩
    · exact ⟨quiet.departed k old none, quiet.unbinds k⟩

theorem run_unheld {f : Fleet κ} (sound : f.Sound) {k : LinkId}
    (old : k < f.world.network.links.length) (nobody : f.holders k = 0) (moves : List Move) :
    (f.run moves).holders k = 0 ∧ (f.run moves).sentOver k = f.sentOver k := by
  induction moves generalizing f with
  | nil => exact ⟨nobody, rfl⟩
  | cons m rest ih =>
      obtain ⟨still, unheld, -⟩ := step_stays sound m old
      obtain ⟨nobody', same⟩ := unheld nobody
      obtain ⟨nobody'', same'⟩ := ih (step_sound sound m) still nobody'
      exact ⟨nobody'', same'.trans same⟩

theorem run_departed {f : Fleet κ} (sound : f.Sound) {k : LinkId}
    (old : k < f.world.network.links.length) (none : f.contextsOn k = 0) (moves : List Move) :
    (f.run moves).contextsOn k = 0 ∧ (f.run moves).unbindsOver k = f.unbindsOver k := by
  induction moves generalizing f with
  | nil => exact ⟨none, rfl⟩
  | cons m rest ih =>
      obtain ⟨still, -, departed⟩ := step_stays sound m old
      obtain ⟨none', same⟩ := departed none
      obtain ⟨none'', same'⟩ := ih (step_sound sound m) still none'
      exact ⟨none'', same'.trans same⟩

end Fleet

end ManagedLdap
