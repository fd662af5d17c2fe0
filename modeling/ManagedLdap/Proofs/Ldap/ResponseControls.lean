/-
# ManagedLdap.Proofs.Ldap.ResponseControls -- whose controls a context has after a call

A context keeps the controls of the responses that it judges itself.  `perform_records` is the
step: an operation that is a conversation leaves its context as it was but for the controls of the
last result it heard, and where it heard none, it leaves these too.  `responseControls_last` is the
same for operations one after another, whatever happens to the world between them.

A listing is a search that is read to its end before the call returns, and a cursor keeps nothing
for the context.  So a listing hears its results like any other operation and leaves the controls
of an earlier response behind (`listing_unrecorded`).
-/
import ManagedLdap.Proofs.Ldap.EntryReads
import ManagedLdap.Proofs.Ldap.Listing

namespace ManagedLdap

set_option autoImplicit false

namespace LdapDirContext

variable {κ : Type}

/-! ## Single operations -/

/-- A context and a world after a conversation of that context: it keeps the controls of the last
result, and is otherwise as it was. -/
def Recorded (x x' : LdapDirContext × World κ) : Prop :=
  ∃ es, Converses x.1.patience es (x.2.network.seen x.1.connection)
      (x'.2.network.seen x.1.connection) ∧
    x'.1 = x.1.after es

theorem after_append (c : LdapDirContext) (es es' : List Exchange) :
    (c.after es).after es' = c.after (es ++ es') := by
  simp only [after, lastControls_append]

/-- Reading an entry is one request, and the verdict on its result. -/
theorem readEntry_recorded (dn : String) (names : List String) (c : LdapDirContext)
    (w : World κ) : Recorded (c, w) (readEntry dn names c w).2 := by
  simp only [readEntry, linkOf, Client.orFail, Act.bind_apply, Act.self_apply]
  cases held : c.connection with
  | none => exact ⟨[], .silent _, rfl⟩
  | some k =>
      obtain ⟨same, es, said, -, came⟩ := Client.searchAll_asks (k := k) c.patience c.requestControls
        { base := dn, scope := .object, filter := Filter.matchAll, attributes := names } c w
      simp only [Act.pure_apply]
      generalize Client.searchAll k c.patience c.requestControls _ c w = y at same said came
      obtain ⟨outcome, c', w'⟩ := y
      obtain rfl : c' = c := same
      rw [← held] at said
      rcases came with ⟨⟨f, rfl⟩, unheard⟩ | ⟨e, r, rfl, arrived, rfl⟩
      · refine ⟨es, said, ?_⟩
        rw [after, lastControls_unheard _ unheard]
        rfl
      · have last : c'.after [e] = { c' with responseControls := r.controls } := by
          rw [after, lastControls_result _ arrived]
        refine ⟨[e], ?_⟩
        rw [last]
        simp only [Act.pure_apply, check_apply, Library.collect_controls]
        -- Judging the result, and picking the entry, is done without a word.
        cases c'.verdict _ dn with
        | error f => exact ⟨said, rfl⟩
        | ok u => cases Client.entries _ <;> exact ⟨said, rfl⟩

theorem recorded_chains : Chains (Recorded (κ := κ)) where
  refl x := ⟨[], .silent _, rfl⟩
  trans := by
    rintro x y z ⟨es, said, same⟩ ⟨es', said', same'⟩
    have line : y.1.connection = x.1.connection := by rw [same]; rfl
    have waits : y.1.patience = x.1.patience := by rw [same]; rfl
    rw [line, waits] at said'
    exact ⟨es ++ es', said.append said', by rw [same', same, after_append]⟩
  request := by
    intro dn r single c w
    have requested := request_requested dn single c w
    generalize request dn r c w = y at requested
    cases requested with
    | unsent deaf => exact ⟨[], .silent _, rfl⟩
    | exchanged asks said => exact ⟨_, said, rfl⟩
  readEntry := readEntry_recorded
  child := by
    intro base controls c w
    rw [child_apply]
    have shared : (w.holding c.connection).network.seen c.connection =
        w.network.seen c.connection :=
      Network.seen_along (f := fun l => { l with shares := l.shares + 1 }) (fun _ => rfl) _
    refine ⟨[], ?_, rfl⟩
    rw [shared]
    exact .silent _

/-- A conversation leaves its context as it was, but for the controls of the last result. -/
theorem perform_records {op : Op} (converses : isConversation op = true) (c : LdapDirContext)
    (w : World κ) : Recorded (c, w) (perform op c w).2 :=
  perform_leads recorded_chains converses c w

/-- Every other operation leaves the controls of the last response alone. -/
theorem perform_unrecorded {op : Op} (other : isConversation op = false) (c : LdapDirContext)
    (w : World κ) : (perform op c w).2.1.responseControls = c.responseControls := by
  have search_same : ∀ name filter controls, (search name filter controls c w).2.1 = c := by
    intro name filter controls
    have begun := search_begun name filter controls c w
    generalize search name filter controls c w = y at begun
    cases begun <;> rfl
  cases op with
  | list name =>
      simp only [perform, Act.map_apply]
      rw [(list_converses name c w).1]
  | search name filter controls =>
      simp only [perform, Act.map_apply]
      rw [search_same]
  | searchWithArgs name expr args controls =>
      simp only [perform, Act.map_apply, searchWithArgs]
      cases Filter.substitute expr args with
      | ok filter =>
          dsimp only
          rw [search_same]
      | error fault => rfl
  | searchByAttributes name matching ids =>
      simp only [perform, Act.map_apply]
      rw [searchByAttributes, search_same]
  | reconnect controls =>
      rw [perform_reconnect]
      rcases c.reconnect_network controls w with ⟨f, w', failed, -⟩ | ⟨k, n, w', moved, -⟩
      · rw [failed]
      · rw [moved]
  | addToEnvironment property value => rfl
  | removeFromEnvironment property => rfl
  | setRequestControls controls => rfl
  | _ => cases other

/-! ## Operations one after another -/

/-- Operations that have heard everything when they return: conversations and listings. -/
def concludes : Op → Bool
  | .list _ => true
  | op => isConversation op

theorem concludes_cases {op : Op} (hears : concludes op = true) :
    (∃ name, op = .list name) ∨ isConversation op = true := by
  cases op with
  | list name => exact .inl ⟨name, rfl⟩
  | _ => exact .inr hears

/-- An operation with what it found and what it left. -/
structure Performed (κ : Type) where
  op : Op
  before : LdapDirContext × World κ
  after : LdapDirContext × World κ

/-- What was exchanged over the connection of its context. -/
def Performed.exchanges (p : Performed κ) : List Exchange :=
  p.before.2.network.exchanges p.before.1.connection p.before.1.patience p.after.2.network

/-- Operations of a context one after another, each in the world it finds. -/
def performed : List (Op × World κ) → LdapDirContext → List (Performed κ)
  | [], _ => []
  | (op, w) :: calls, c =>
      ⟨op, (c, w), (perform op c w).2⟩ :: performed calls (perform op c w).2.1

/-- What becomes of a context by some operations. -/
def performAll (calls : List (Op × World κ)) (c : LdapDirContext) : LdapDirContext :=
  calls.foldl (fun c call => (perform call.1 c call.2).2.1) c

/-- The exchanges of the conversations among some operations. -/
def recorded (ps : List (Performed κ)) : List Exchange :=
  (ps.filter fun p => isConversation p.op).flatMap Performed.exchanges

theorem recorded_cons (p : Performed κ) (ps : List (Performed κ)) :
    recorded (p :: ps) = (if isConversation p.op then p.exchanges else []) ++ recorded ps := by
  unfold recorded
  rw [List.filter_cons]
  split
  · rw [List.flatMap_cons]
  · rw [List.nil_append]

theorem mem_performed {calls : List (Op × World κ)} {c : LdapDirContext} {p : Performed κ}
    (among : p ∈ performed calls c) : p.after = (perform p.op p.before.1 p.before.2).2 := by
  induction calls generalizing c with
  | nil => cases among
  | cons call calls ih =>
      rcases List.mem_cons.1 among with rfl | later
      · rfl
      · exact ih later

/-- What an operation hears is a conversation with its server. -/
theorem performed_converses {calls : List (Op × World κ)} {c : LdapDirContext} {p : Performed κ}
    (among : p ∈ performed calls c) (hears : concludes p.op = true) :
    Converses p.before.1.patience p.exchanges (p.before.2.network.seen p.before.1.connection)
      (p.after.2.network.seen p.before.1.connection) := by
  have left := mem_performed among
  obtain ⟨op, ⟨c, w⟩, after⟩ := p
  replace left : after = (perform op c w).2 := left
  subst left
  have converses : ∃ es, Converses c.patience es (w.network.seen c.connection)
      ((perform op c w).2.2.network.seen c.connection) := by
    rcases concludes_cases hears with ⟨name, listing⟩ | conversation
    · obtain rfl : op = .list name := listing
      simp only [perform, Act.map_apply]
      obtain ⟨-, es, said, -⟩ := list_converses name c w
      exact ⟨es, said⟩
    · obtain ⟨es, said, -⟩ := perform_records conversation c w
      exact ⟨es, said⟩
  obtain ⟨es, said⟩ := converses
  rw [Performed.exchanges, said.exchanges_eq]
  exact said

/-- The step: the controls after an operation. -/
theorem perform_responseControls (op : Op) (c : LdapDirContext) (w : World κ) :
    (perform op c w).2.1.responseControls = lastControls c.responseControls
      (if isConversation op then
        w.network.exchanges c.connection c.patience (perform op c w).2.2.network else []) := by
  cases converses : isConversation op with
  | false =>
      rw [perform_unrecorded converses c w]
      rfl
  | true =>
      obtain ⟨es, said, after⟩ := perform_records converses c w
      rw [if_pos rfl, said.exchanges_eq, after]
      rfl

/-- **Response controls.**  Whatever operations are done with a context, in whatever worlds: what
each hears is a conversation over its connection, and in the end the context has the controls of
the last result that a conversation heard, and those it had before where none did.  Searches,
listings and reconnects, and what concerns the context alone, do not count. -/
theorem responseControls_last (calls : List (Op × World κ)) (c : LdapDirContext) :
    (∀ p ∈ performed calls c, concludes p.op = true →
      Converses p.before.1.patience p.exchanges (p.before.2.network.seen p.before.1.connection)
        (p.after.2.network.seen p.before.1.connection)) ∧
    (performAll calls c).responseControls =
      lastControls c.responseControls (recorded (performed calls c)) := by
  refine ⟨fun p among => performed_converses among, ?_⟩
  induction calls generalizing c with
  | nil => rfl
  | cons call calls ih =>
      obtain ⟨op, w⟩ := call
      have step := perform_responseControls op c w
      calc (performAll ((op, w) :: calls) c).responseControls
          = (performAll calls (perform op c w).2.1).responseControls := rfl
        _ = lastControls (perform op c w).2.1.responseControls
              (recorded (performed calls (perform op c w).2.1)) := ih _
        _ = lastControls c.responseControls (recorded (performed ((op, w) :: calls) c)) := by
            rw [performed, recorded_cons, lastControls_append, step]
            rfl

/-- A listing whose reply carries a control: the context has the controls of an earlier response
afterwards, and not those of the result it received last. -/
theorem listing_unrecorded :
    ¬ ∀ (calls : List (Op × World Unit)) (c : LdapDirContext),
      (∀ call ∈ calls, concludes call.1 = true) →
        (performAll calls c).responseControls =
          lastControls c.responseControls ((performed calls c).flatMap Performed.exchanges) := by
  intro always
  let reply : ServerReply := { result := { controls := [⟨"1.2.3", false, some [1]⟩] } }
  have same := always [(.list "", answering [reply])] listener (by simp [concludes])
  have kept : (performAll [(.list "", answering [reply])] listener).responseControls = [] := by
    decide +kernel
  have heard : lastControls listener.responseControls
      ((performed [(.list "", answering [reply])] listener).flatMap Performed.exchanges) =
        [⟨"1.2.3", false, some [1]⟩] := by decide +kernel
  rw [kept, heard] at same
  cases same

end LdapDirContext

end ManagedLdap
