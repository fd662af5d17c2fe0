/-
# ManagedLdap.Proofs.Ldap.AfterClose -- what can still be done with a closed context

A closed context has no connection.  It answers questions and takes new properties and
controls, all of which it does alone; whatever needs a connection is refused as closed, and
the world is left as it was (`perform_refuses`, `perform_alone`).

There is one exception.  Reconnecting does not ask whether the context is still open: it opens
a connection for a closed one as well, and if that succeeds the context is open again
(`reconnect_closed`).  So `closed_until_reconnect` says what holds along every sequence of
calls: the context stays closed, and silent, up to the first reconnect that succeeds, and every
reconnect before that is one attempt to connect.  `reconnect_reopens` is such a sequence.
-/
import ManagedLdap.Proofs.Ldap.StartTls

namespace ManagedLdap

set_option autoImplicit false

namespace LdapDirContext

variable {κ : Type}

/-! ## Calls of a context -/

/-- A call of a context. -/
inductive Call where
  | perform (op : Op)
  | ask (q : Query)
  | close

namespace Call

/-- Make a call.  An operation hands back a reply, and a question its answer. -/
def run : Call → Act κ LdapDirContext (Reply LdapDirContext SearchCursor ⊕ Answer)
  | .perform op => .inl <$> LdapDirContext.perform op
  | .ask q => do
      let c ← Act.self
      return .inr (c.answer q)
  | .close => do
      LdapDirContext.close
      return .inl .done

/-- The controls that a call reconnects with, if it reconnects. -/
def reconnects? : Call → Option (List Control)
  | .perform (.reconnect controls) => some controls
  | _ => none

/-- Whether a call cannot be carried out without a connection.  An empty list of modifications
asks nothing of a server, and arguments that do not fit their filter expression are refused
before there is anything to search for. -/
def needsConnection : Call → Bool
  | .perform (.modify _ mods) => !mods.isEmpty
  | .perform (.searchWithArgs _ expr args _) => (Filter.substitute expr args).isOk
  | .perform (.addToEnvironment _ _) => false
  | .perform (.removeFromEnvironment _) => false
  | .perform (.setRequestControls _) => false
  | .perform _ => true
  | .ask _ => false
  | .close => false

end Call

/-! ## One call of a closed context -/

variable {c : LdapDirContext}

theorem linkOf_closed (closed : c.connection = none) {σ : Type} (s : σ) (w : World κ) :
    (c.linkOf : Act κ σ LinkId) s w = (.error (.error .closed), s, w) := by
  simp only [linkOf, closed, Act.fail_apply]

theorem request_closed (closed : c.connection = none) (dn : String) (r : Request) (w : World κ) :
    request dn r c w = (.error (.error .closed), c, w) := by
  simp only [request, Act.bind_apply, Act.self_apply, linkOf_closed closed]

theorem send_closed (closed : c.connection = none) (dn : String) (r : Request) (w : World κ) :
    send dn r c w = (.error (.error .closed), c, w) := by
  simp only [send, Act.bind_apply, request_closed closed]

theorem readEntry_closed (closed : c.connection = none) (dn : String) (names : List String)
    (w : World κ) : readEntry dn names c w = (.error (.error .closed), c, w) := by
  simp only [readEntry, Act.bind_apply, Act.self_apply, linkOf_closed closed]

theorem search_closed (closed : c.connection = none) (name filter : String)
    (controls : SearchControls) (w : World κ) :
    search name filter controls c w = (.error (.error .closed), c, w) := by
  simp only [search, Act.bind_apply, Act.self_apply, linkOf_closed closed]

/-- What needs a connection is refused, and leaves the context and the world as they are. -/
theorem perform_refuses (closed : c.connection = none) {op : Op}
    (needs : (Call.perform op).needsConnection = true) (stays : op.opensConnection = false)
    (w : World κ) : perform op c w = (.error (.error .closed), c, w) := by
  have sends := @send_closed κ c closed
  have reads := @readEntry_closed κ c closed
  have searches := @search_closed κ c closed
  cases op with
  | bind name attrs => simp only [perform, bind, Act.bind_apply, Act.self_apply, sends]
  | rename name newName => simp only [perform, rename, Act.bind_apply, Act.self_apply, sends]
  | createSubcontext name attrs =>
      simp [perform, createSubcontext, bind, Act.bind_apply, sends, Except.map]
  | rebind name attrs =>
      simp only [perform, rebind, unbind, deleteEntry, Act.bind_apply, Act.self_apply,
        request_closed closed]
  | unbind name =>
      simp only [perform, unbind, deleteEntry, Act.bind_apply, Act.self_apply,
        request_closed closed]
  | destroySubcontext name =>
      simp only [perform, destroySubcontext, unbind, deleteEntry, Act.bind_apply, Act.self_apply,
        request_closed closed]
  | extendedOperation r =>
      simp [perform, extendedOperation, Act.bind_apply, request_closed closed, Except.map]
  | lookup name => simp [perform, lookup, Act.bind_apply, reads, Except.map]
  | getAttributes name ids => simp [perform, getAttributes, Act.bind_apply, reads, Except.map]
  | getSchema name => simp [perform, getSchema, schemaDn, Act.bind_apply, reads, Except.map]
  | getSchemaClassDefinition name =>
      simp [perform, getSchemaClassDefinition, Act.bind_apply, reads, Except.map]
  | list name => simp [perform, list, Act.bind_apply, searches, Except.map]
  | search name filter controls => simp [perform, searches, Except.map]
  | searchByAttributes name matching ids =>
      simp [perform, searchByAttributes, searches, Except.map]
  | searchWithArgs name expr args controls =>
      cases filled : Filter.substitute expr args with
      | ok filter => simp [perform, searchWithArgs, filled, searches, Except.map]
      | error fault => simp [Call.needsConnection, filled, Except.isOk, Except.toBool] at needs
  | modify name mods =>
      have some : mods.isEmpty = false := by simpa [Call.needsConnection] using needs
      simp [perform, modify, some, Act.bind_apply, linkOf_closed closed]
  | newInstance controls =>
      simp [perform, newInstance, Act.bind_apply, linkOf_closed closed, Except.map]
  | reconnect controls => cases stays
  | addToEnvironment property value => cases needs
  | removeFromEnvironment property => cases needs
  | setRequestControls controls => cases needs

/-- What needs no connection is done without one. -/
theorem perform_alone (closed : c.connection = none) {op : Op}
    (alone : (Call.perform op).needsConnection = false) (w : World κ) :
    (perform op c w).2.2 = w ∧ (perform op c w).2.1.connection = none := by
  cases stays : isLocal op with
  | true =>
      obtain ⟨reply, c', performed, -, -, same⟩ := perform_local stays c w
      rw [performed]
      exact ⟨rfl, same.trans closed⟩
  | false =>
      cases op with
      | modify name mods =>
          have nothing : mods.isEmpty = true := by simpa [Call.needsConnection] using alone
          simp [perform, modify, nothing, Act.bind_apply, closed]
      | searchWithArgs name expr args controls =>
          cases filled : Filter.substitute expr args with
          | ok filter => simp [Call.needsConnection, filled, Except.isOk, Except.toBool] at alone
          | error fault => simp [perform, searchWithArgs, filled, closed]
      | addToEnvironment property value => cases stays
      | removeFromEnvironment property => cases stays
      | setRequestControls controls => cases stays
      | _ => cases alone

/-- A reconnect opens a connection for a closed context, too. -/
theorem reconnect_closed (closed : c.connection = none) (controls : List Control)
    (w : World κ) :
    let x := reconnect controls c w
    w.network.Attempted (c.opening controls) w.slot x.2.2.network ∧
      x.2.1 = match x.1 with
        | .ok _ => { c with
            connectControls := controls, connection := some w.network.links.length }
        | .error _ => c := by
  have attempted := Connection.open_sends (c.opening controls) c w
  obtain ⟨same, grown⟩ := Connection.open_grows c.url c.config c.credentials controls c w
  simp only [opening] at attempted
  simp only [reconnect, Act.bind_apply, Act.self_apply]
  generalize Connection.open c.url c.config c.credentials controls c w = x
    at attempted same grown ⊢
  obtain ⟨failure | k, c', w'⟩ := x
  · exact ⟨attempted, same⟩
  · obtain rfl : c' = c := same
    obtain ⟨rfl, -⟩ := grown.newest
    simp only [Act.update_apply, closed]
    exact ⟨attempted, rfl⟩

/-! ## Calls one after another -/

/-- What a call of a context came to. -/
structure CallReport (κ : Type) where
  call : Call
  outcome : Except Failure (Reply LdapDirContext SearchCursor ⊕ Answer)
  before : LdapDirContext × World κ
  after : LdapDirContext × World κ

/-- The report of a call. -/
def Call.report (call : Call) (x : LdapDirContext × World κ) : CallReport κ :=
  { call := call
    outcome := (call.run x.1 x.2).1
    before := x
    after := (call.run x.1 x.2).2 }

/-- The reports of calls made one after another. -/
def history : List Call → LdapDirContext × World κ → List (CallReport κ)
  | [], _ => []
  | call :: calls, x => call.report x :: history calls (call.report x).after

namespace CallReport

/-- A reconnect that succeeded. -/
def reopens (r : CallReport κ) : Bool := r.call.reconnects?.isSome && r.outcome.isOk

/-- What a call of a closed context comes to. -/
structure OnClosed (r : CallReport κ) : Prop where
  closed : r.before.1.connection = none
  /-- Save for a reconnect, nothing is sent, nothing opened, and nothing else happens to the
  world; and the context is closed afterwards. -/
  silent : r.call.reconnects? = none → r.after.2 = r.before.2 ∧ r.after.1.connection = none
  /-- What needs a connection is refused. -/
  refused : r.call.reconnects? = none → r.call.needsConnection = true →
    r.outcome = .error (.error .closed)
  /-- A reconnect is one attempt to connect where the context was connected; the context is
  open again if the attempt succeeds, and stays as it was otherwise. -/
  reconnects : ∀ controls, r.call.reconnects? = some controls →
    r.before.2.network.Attempted (r.before.1.opening controls) r.before.2.slot
      r.after.2.network ∧
    r.after.1 = match r.outcome with
      | .ok _ => { r.before.1 with
          connectControls := controls, connection := some r.before.2.network.links.length }
      | .error _ => r.before.1

end CallReport

theorem report_onClosed (call : Call) {x : LdapDirContext × World κ}
    (closed : x.1.connection = none) : (call.report x).OnClosed := by
  obtain ⟨c, w⟩ := x
  have closed : c.connection = none := closed
  refine ⟨closed, fun stays => ?_, fun stays needs => ?_, fun controls reconnects => ?_⟩
  · cases call with
    | perform op =>
        have opens : op.opensConnection = false := by
          cases op with
          | reconnect controls => cases stays
          | _ => rfl
        simp only [Call.report, Call.run, Act.map_apply]
        cases needs : (Call.perform op).needsConnection with
        | true =>
            rw [perform_refuses closed needs opens w]
            exact ⟨rfl, closed⟩
        | false => exact perform_alone closed needs w
    | ask q => exact ⟨rfl, closed⟩
    | close =>
        simp only [Call.report, Call.run, close, Act.bind_apply, Act.self_apply,
          Act.update_apply, closed]
        exact ⟨rfl, rfl⟩
  · cases call with
    | perform op =>
        have opens : op.opensConnection = false := by
          cases op with
          | reconnect controls => cases stays
          | _ => rfl
        simp only [Call.report, Call.run, Act.map_apply, perform_refuses closed needs opens w]
        rfl
    | ask q => cases needs
    | close => cases needs
  · cases call with
    | perform op =>
        cases op with
        | reconnect controls' =>
            obtain rfl : controls' = controls := Option.some.inj reconnects
            obtain ⟨attempted, after⟩ := reconnect_closed closed controls' w
            simp only [Call.report, Call.run, perform, Act.map_apply, Act.bind_apply]
            generalize reconnect controls' c w = y at attempted after ⊢
            obtain ⟨failure | done, c', w'⟩ := y
            · exact ⟨attempted, after⟩
            · exact ⟨attempted, after⟩
        | _ => cases reconnects
    | ask q => cases reconnects
    | close => cases reconnects

/-- A call of a closed context leaves it closed unless it reconnects it. -/
theorem CallReport.OnClosed.stays {r : CallReport κ} (onClosed : r.OnClosed)
    (same : r.reopens = false) : r.after.1.connection = none := by
  cases reconnects : r.call.reconnects? with
  | none => exact (onClosed.silent reconnects).2
  | some controls =>
      obtain ⟨-, after⟩ := onClosed.reconnects controls reconnects
      cases ended : r.outcome with
      | ok reply => simp [CallReport.reopens, reconnects, ended, Except.isOk, Except.toBool] at same
      | error failure =>
          rw [ended] at after
          rw [after]
          exact onClosed.closed

theorem history_onClosed {calls : List Call} {x : LdapDirContext × World κ}
    (closed : x.1.connection = none) {earlier later : List (CallReport κ)} {r : CallReport κ}
    (split : history calls x = earlier ++ r :: later)
    (kept : ∀ e ∈ earlier, e.reopens = false) : r.OnClosed := by
  induction earlier generalizing calls x with
  | nil =>
      cases calls with
      | nil => cases split
      | cons call calls =>
          obtain ⟨rfl, -⟩ := List.cons.inj split
          exact report_onClosed call closed
  | cons first earlier ih =>
      cases calls with
      | nil => cases split
      | cons call calls =>
          obtain ⟨rfl, rest⟩ := List.cons.inj split
          have still := (report_onClosed call closed).stays (kept _ List.mem_cons_self)
          exact ih still rest fun e among => kept e (List.mem_cons_of_mem _ among)

/-- **Closed until it reconnects.**  A context is closed, and then called in any way.  As long as
no reconnect has succeeded it is closed whenever it is called: it sends nothing and opens
nothing, it refuses whatever needs a connection, and a reconnect is one attempt to open a
connection, which makes the context an open one again if it succeeds. -/
theorem closed_until_reconnect (c : LdapDirContext) (w : World κ) (calls : List Call)
    {earlier later : List (CallReport κ)} {r : CallReport κ}
    (split : history calls (close c w).2 = earlier ++ r :: later)
    (kept : ∀ e ∈ earlier, e.reopens = false) : r.OnClosed := by
  obtain ⟨w', closes, -⟩ := c.close_network w
  rw [closes] at split
  exact history_onClosed rfl split kept

/-- A host with one server, to which one connection was made. -/
def listening : World Unit :=
  { network := { Network.loopback [⟨"h:389", [[]]⟩] with
      links := [⟨"h:389", [], [], true, 1, .standard⟩] } }

/-- The context of that connection. -/
def listener : LdapDirContext :=
  { connection := some 0, url := "ldap://h", base := "dc=x"
    config := { host := "h", baseDn := "dc=x" }, credentials := ⟨"", ""⟩
    environment := .empty, connectControls := [], requestControls := [], responseControls := [] }

/-- A removal that is refused, and a reconnect after it. -/
theorem closed_until_reconnect_of_removal :
    let calls := [Call.perform (.unbind "cn=a"), Call.perform (.reconnect [])]
    let closed := (close listener listening).2
    let removal := (Call.perform (.unbind "cn=a")).report closed
    let reconnect := (Call.perform (.reconnect [])).report removal.after
    history calls closed = [removal] ++ reconnect :: [] ∧ removal.reopens = false ∧
      reconnect.OnClosed := by
  intro calls closed removal reconnect
  have split : history calls closed = [removal] ++ reconnect :: [] := rfl
  have refused : removal.reopens = false := rfl
  refine ⟨split, refused, closed_until_reconnect listener listening calls split ?_⟩
  intro e among
  rw [List.mem_singleton.1 among]
  exact refused

/-- A closed context does not stay closed: reconnecting it makes a connection, and is not
refused. -/
theorem reconnect_reopens :
    ¬ ∀ (c : LdapDirContext) (w : World Unit) (calls : List Call),
      ∀ r ∈ history calls (close c w).2,
        (∀ k, r.after.2.network.sentCount k = r.before.2.network.sentCount k) ∧
        r.after.2.network.links.length = r.before.2.network.links.length ∧
        (r.call.needsConnection = true → r.outcome = .error (.error .closed)) := by
  intro always
  obtain ⟨-, unopened, -⟩ :=
    always listener listening [.perform (.reconnect [])] _ List.mem_cons_self
  exact absurd unopened (by decide +kernel)

end LdapDirContext

end ManagedLdap
