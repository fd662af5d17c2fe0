/-
# ManagedLdap.Proofs.Ldap.Targets -- what the requests of an operation are about

The targets of an operation are the full names of what it is about.  A server knows nothing of a
base; what it gets are the names in the requests, and those are the targets
(`perform_targets`): whatever is sent for an operation goes over the connection of its context and
names its targets, all of them and in turn.  Only where a schema is wanted, entries are read that
nobody named, which are the root and the entry with the definitions.

For a child, or a child of a child, this is what resolving names is for.  The requests of an
operation in the lower context name what the composed names are in the upper one
(`descent_targets`), whatever the two contexts were asked for in between.
-/
import ManagedLdap.Proofs.Ldap.Descent
import ManagedLdap.Proofs.Ldap.Listing

namespace ManagedLdap

set_option autoImplicit false

namespace LdapDirContext

variable {κ : Type}

/-! ## Searches -/

/-- Every page of a search names the entry that the search starts from. -/
theorem page_means {c : LdapDirContext} {op : Op} {name filter : String}
    {controls : SearchControls} {tree : Filter.Tree} {s : Client.Search} (one : op.names = [name])
    (request : s.request = (searchSpec (c.resolve name) filter controls).toRequest tree)
    (cookie : Octets) : c.Means op (s.page cookie).request := by
  have like : Like c c := rfl
  refine means_search like one ?_
  rw [request]
  rfl

/-- What became of a search over the connection of its context: it asked for its first page, if
for anything. -/
theorem search_means {op : Op} {name : String} (one : op.names = [name]) (filter : String)
    (controls : SearchControls) (c : LdapDirContext) (w : World κ) :
    ∃ es, Converses c.patience es (w.network.seen c.connection)
        ((search name filter controls c w).2.2.network.seen c.connection) ∧
      ∀ e ∈ es, c.Means op e.sent.request := by
  have begun := search_begun name filter controls c w
  generalize search name filter controls c w = y at begun
  cases begun with
  | refused e => exact ⟨[], .silent _, List.forall_mem_nil _⟩
  | asked held serves latest library ending said =>
      rw [← held] at said
      exact ⟨_, said, List.forall_mem_singleton.2 (page_means one serves.request [])⟩

/-- A listing asks for page after page of one search. -/
theorem list_means (name : String) (c : LdapDirContext) (w : World κ) :
    ∃ es, Converses c.patience es (w.network.seen c.connection)
        ((list name c w).2.2.network.seen c.connection) ∧
      ∀ e ∈ es, c.Means (.list name) e.sent.request := by
  obtain ⟨-, es, said, listed⟩ := list_converses name c w
  refine ⟨es, said, ?_⟩
  cases listed with
  | refused => exact List.forall_mem_nil _
  | @read s _ first more _ started _ _ _ asked _ _ turned =>
      obtain ⟨s', tree, same, -, serves⟩ := search_streams started
      obtain rfl := Option.some.inj (congrArg SearchCursor.stream same)
      have means : ∀ cookie, c.Means (.list name) (s.page cookie).request :=
        page_means rfl serves.request
      refine List.forall_mem_cons.2 ⟨asked ▸ means [], fun e later => ?_⟩
      obtain ⟨cookie, page⟩ := turned.pages e later
      exact page ▸ means cookie

/-! ## All operations -/

/-- Whatever is asked for an operation is asked over the connection of its context, and is what
may be asked for it. -/
theorem perform_means {op : Op} (stays : op.opensConnection = false) (c : LdapDirContext)
    (w : World κ) :
    ∃ es, Converses c.patience es (w.network.seen c.connection)
        ((perform op c w).2.2.network.seen c.connection) ∧
      ∀ e ∈ es, c.Means op e.sent.request := by
  cases converses : isConversation op with
  | true =>
      have conversing : Conversing c (c.Means op) (perform op : Act κ _ _) :=
        perform_converses converses
      obtain ⟨es, said⟩ := conversing c w rfl
      exact ⟨es, said.traffic, said.asks⟩
  | false =>
      cases op with
      | list name =>
          simp only [perform, Act.map_apply]
          exact list_means name c w
      | search name filter controls =>
          simp only [perform, Act.map_apply]
          exact search_means rfl filter controls c w
      | searchByAttributes name matching ids =>
          simp only [perform, Act.map_apply]
          exact search_means rfl _ _ c w
      | searchWithArgs name expr args controls =>
          simp only [perform, Act.map_apply, searchWithArgs]
          cases Filter.substitute expr args with
          | ok filter => exact search_means rfl filter controls c w
          | error fault => exact ⟨[], .silent _, List.forall_mem_nil _⟩
      | addToEnvironment property value => exact ⟨[], .silent _, List.forall_mem_nil _⟩
      | removeFromEnvironment property => exact ⟨[], .silent _, List.forall_mem_nil _⟩
      | setRequestControls controls => exact ⟨[], .silent _, List.forall_mem_nil _⟩
      | reconnect controls => cases stays
      | _ => cases converses

/-- An operation leaves the connections of others as they are. -/
theorem perform_elsewhere {op : Op} (stays : op.opensConnection = false) {c : LdapDirContext}
    {k : LinkId} (other : c.connection ≠ some k) (w : World κ) :
    (perform op c w).2.2.network.link? k = w.network.link? k := by
  obtain ⟨-, w₁, ⟨⟨f, -, during⟩, -⟩, ends⟩ := perform_shares stays c w
  have before : w₁.network.link? k = w.network.link? k := by
    rw [during, Network.link?_along other]
  generalize perform op c w = y at ends
  obtain ⟨failure | reply, c', w'⟩ := y
  · obtain rfl : w' = w₁ := ends
    exact before
  · obtain ⟨holds, -, rfl⟩ := ends
    have held : held reply ≠ some k := by
      rcases holds with nothing | same
      · rw [nothing]
        exact nofun
      · rw [same]
        exact other
    exact (Network.link?_along held _).trans before

/-- **The names in the requests.**  Whatever is sent for an operation that opens no connection is
sent over that of its context and names the targets of the operation, or else is a read of the
root or of some definitions for an operation that concerns a schema. -/
theorem perform_targets {op : Op} (stays : op.opensConnection = false) (c : LdapDirContext)
    (w : World κ) (k : LinkId) :
    ∃ more, (perform op c w).2.2.network.sentOver k = w.network.sentOver k ++ more ∧
      ∀ r ∈ more, c.connection = some k ∧ (r.request.Names (c.targets op) ∨
        op.concernsSchema = true ∧ r.request.ReadsSchema) := by
  by_cases here : c.connection = some k
  · obtain ⟨es, said, means⟩ := perform_means stays c w
    rw [here] at said
    refine ⟨es.map Exchange.sent, said.sentOver, fun r among => ⟨here, ?_⟩⟩
    obtain ⟨e, exchanged, rfl⟩ := List.mem_map.1 among
    exact means e exchanged
  · refine ⟨[], ?_, List.forall_mem_nil _⟩
    rw [List.append_nil]
    exact Network.sentOver_congr (perform_elsewhere stays here w)

/-- **The names in the requests of a child** are those that the composed names stand for above. -/
theorem descent_targets {n : String} {c d : LdapDirContext} (descent : Descent κ c n d) {op : Op}
    (stays : op.opensConnection = false) (w : World κ) (k : LinkId) :
    ∃ more, (perform op d w).2.2.network.sentOver k = w.network.sentOver k ++ more ∧
      ∀ r ∈ more, r.request.Names (c.targets (op.mapNames fun b => Name.compose b n)) ∨
        op.concernsSchema = true ∧ r.request.ReadsSchema := by
  obtain ⟨more, sent, names⟩ := perform_targets stays d w k
  rw [descent.targets]
  exact ⟨more, sent, fun r among => (names r among).2⟩

end LdapDirContext

end ManagedLdap
