/-
# ManagedLdap.Proofs.Ldap.Places -- the same operation from two places of the namespace

An operation uses the names it is given, and the base of its context, for nothing but the full
names they make.  Two contexts are `Aligned` along a function on names when the one calls `f name`
what the other calls `name`, and they agree in all else but the controls of their last responses.
Whatever operation on names is asked of the two, each time with its own names: the replies are the
same, so is the world, and the contexts are still aligned (`perform_abreast`).

`Act.Abreast` says this of any two calls on objects in a relation.  It is kept by every way that
calls are put together, and a call that never looks at its object is abreast of itself.
-/
import ManagedLdap.Proofs.Ldap.Calls

namespace ManagedLdap

set_option autoImplicit false

/-! ## Names of operations -/

namespace Op

/-- The names that an operation is about.  A search has one name; its filter is no name. -/
def names : Op → List String
  | .bind name _ | .rebind name _ | .unbind name | .lookup name | .list name
  | .getAttributes name _ | .modify name _ | .createSubcontext name _ | .destroySubcontext name
  | .getSchema name | .getSchemaClassDefinition name | .search name _ _
  | .searchWithArgs name _ _ _ | .searchByAttributes name _ _ => [name]
  | .rename name newName => [name, newName]
  | .addToEnvironment _ _ | .removeFromEnvironment _ | .extendedOperation _ | .newInstance _
  | .reconnect _ | .setRequestControls _ => []

/-- The same operation on other names. -/
def mapNames (f : String → String) : Op → Op
  | .bind name attrs => .bind (f name) attrs
  | .rebind name attrs => .rebind (f name) attrs
  | .unbind name => .unbind (f name)
  | .rename name newName => .rename (f name) (f newName)
  | .lookup name => .lookup (f name)
  | .list name => .list (f name)
  | .getAttributes name ids => .getAttributes (f name) ids
  | .modify name mods => .modify (f name) mods
  | .createSubcontext name attrs => .createSubcontext (f name) attrs
  | .destroySubcontext name => .destroySubcontext (f name)
  | .getSchema name => .getSchema (f name)
  | .getSchemaClassDefinition name => .getSchemaClassDefinition (f name)
  | .search name filter controls => .search (f name) filter controls
  | .searchWithArgs name expr args controls => .searchWithArgs (f name) expr args controls
  | .searchByAttributes name matching ids => .searchByAttributes (f name) matching ids
  | op => op

theorem names_mapNames (f : String → String) (op : Op) :
    (op.mapNames f).names = op.names.map f := by
  cases op <;> rfl

end Op

/-- The full names of what an operation is about, which are the names in its requests
(`perform_targets`). -/
def LdapDirContext.targets (c : LdapDirContext) (op : Op) : List String := op.names.map c.resolve

/-! ## Calls that go abreast -/

namespace Act

variable {κ σ τ α β : Type}

/-- Two calls that, on objects in a relation, return or fail alike, leave the same world, and
leave their objects in the relation. -/
def Abreast (R : σ → σ → Prop) (x y : Act κ σ α) : Prop :=
  ∀ s t w, R s t → (x s w).1 = (y t w).1 ∧ (x s w).2.2 = (y t w).2.2 ∧ R (x s w).2.1 (y t w).2.1

namespace Abreast

variable {R : σ → σ → Prop}

theorem ret (a : α) : Abreast R (pure a : Act κ σ α) (pure a) := fun _ _ _ rel => ⟨rfl, rfl, rel⟩

theorem fail (e : DirError) : Abreast R (Act.fail e : Act κ σ α) (Act.fail e) :=
  fun _ _ _ rel => ⟨rfl, rfl, rel⟩

theorem failWith (f : Failure) : Abreast R (Act.failWith f : Act κ σ α) (Act.failWith f) :=
  fun _ _ _ rel => ⟨rfl, rfl, rel⟩

theorem updateWorld (f : World κ → World κ) :
    Abreast R (Act.updateWorld f : Act κ σ Unit) (Act.updateWorld f) :=
  fun _ _ _ rel => ⟨rfl, rfl, rel⟩

theorem updateNetwork (f : Network → Network) :
    Abreast R (Act.updateNetwork f : Act κ σ Unit) (Act.updateNetwork f) :=
  fun _ _ _ rel => ⟨rfl, rfl, rel⟩

/-- Going on with a look at the network. -/
theorem withNetwork {x y : Network → Act κ σ β} (next : ∀ n, Abreast R (x n) (y n)) :
    Abreast R (Act.network >>= x) (Act.network >>= y) :=
  fun s t w rel => next w.network s t w rel

/-- A call on another object is none of this one's business. -/
theorem on (t : τ) (x : Act κ τ α) : Abreast R (Act.on t x : Act κ σ _) (Act.on t x) :=
  fun _ _ _ rel => ⟨rfl, rfl, rel⟩

theorem update {f g : σ → σ} (keeps : ∀ s t, R s t → R (f s) (g t)) :
    Abreast R (Act.update f : Act κ σ Unit) (Act.update g) :=
  fun s t _ rel => ⟨rfl, rfl, keeps s t rel⟩

theorem bind {x y : Act κ σ α} {f g : α → Act κ σ β} (first : Abreast R x y)
    (second : ∀ a, Abreast R (f a) (g a)) : Abreast R (x >>= f) (y >>= g) := by
  intro s t w rel
  obtain ⟨value, world, rel'⟩ := first s t w rel
  simp only [bind_apply]
  generalize x s w = u at value world rel'
  generalize y t w = v at value world rel'
  obtain ⟨r, s', w'⟩ := u
  obtain ⟨r', t', v'⟩ := v
  obtain rfl : r = r' := value
  obtain rfl : w' = v' := world
  cases r with
  | error failure => exact ⟨rfl, rfl, rel'⟩
  | ok a => exact second a s' t' w' rel'

theorem map {x y : Act κ σ α} (f : α → β) (abreast : Abreast R x y) :
    Abreast R (f <$> x) (f <$> y) := by
  intro s t w rel
  obtain ⟨value, world, rel'⟩ := abreast s t w rel
  simp only [map_apply]
  exact ⟨congrArg (Except.map f) value, world, rel'⟩

/-- Going on with the object. -/
theorem withSelf {f g : σ → Act κ σ β} (next : ∀ s t, R s t → Abreast R (f s) (g t)) :
    Abreast R (Act.self >>= f) (Act.self >>= g) :=
  fun s t w rel => next s t rel s t w rel

end Abreast

end Act

open Act (Abreast)

/-! ## Requests of the client -/

namespace Client

variable {κ σ α : Type} {R : σ → σ → Prop}

theorem exchange_abreast (k : LinkId) (patience : Option Nat) (controls : List Control)
    (r : Request) :
    Abreast R (exchange k patience controls r : Act κ σ _) (exchange k patience controls r) := by
  intro s t w rel
  simp only [exchange, Act.bind_apply, Act.network_apply]
  split <;> exact ⟨rfl, rfl, rel⟩

theorem requestPage_abreast (search : Search) (cookie : Octets) :
    Abreast R (requestPage search cookie : Act κ σ _) (requestPage search cookie) := by
  intro s t w rel
  simp only [requestPage, Act.bind_apply, Act.network_apply]
  split <;> exact ⟨rfl, rfl, rel⟩

theorem startSearch_abreast (k : LinkId) (patience : Option Nat) (controls : List Control)
    (size : Option Int) (spec : SearchSpec) :
    Abreast R (startSearch k patience controls size spec : Act κ σ _)
      (startSearch k patience controls size spec) := by
  unfold startSearch
  split
  · exact .ret _
  · split
    · exact .ret _
    · exact .withNetwork fun n => requestPage_abreast _ _

theorem searchAll_abreast (k : LinkId) (patience : Option Nat) (controls : List Control)
    (spec : SearchSpec) :
    Abreast R (searchAll k patience controls spec : Act κ σ _)
      (searchAll k patience controls spec) := by
  refine (startSearch_abreast k patience controls none spec).bind fun started => ?_
  cases started with
  | error e => exact .ret _
  | ok stream =>
      dsimp only
      split
      · exact .ret _
      · exact .ret _

theorem orFail_abreast {x y : Act κ σ (Except ClientError α)} (abreast : Abreast R x y) :
    Abreast R (orFail x) (orFail y) := by
  refine abreast.bind fun r => ?_
  cases r with
  | ok a => exact .ret a
  | error e => exact .fail _

end Client

/-! ## Contexts at two places -/

namespace LdapDirContext

variable {κ : Type} {f : String → String} {c d : LdapDirContext}

/-- `d` agrees with `c` in all but its place and the controls of the last response. -/
def Agrees (c d : LdapDirContext) : Prop :=
  d = { c with base := d.base, responseControls := d.responseControls }

/-- What `d` calls `name`, `c` calls `f name`, and they agree. -/
structure Aligned (f : String → String) (c d : LdapDirContext) : Prop where
  names : ∀ name, c.resolve (f name) = d.resolve name
  agrees : Agrees c d

namespace Agrees

theorem connection (agrees : Agrees c d) : c.connection = d.connection := by rw [agrees]

theorem requestControls (agrees : Agrees c d) : c.requestControls = d.requestControls := by
  rw [agrees]

theorem patience (agrees : Agrees c d) : c.patience = d.patience := by
  rw [agrees]
  rfl

theorem origin (agrees : Agrees c d) : c.origin = d.origin := by
  rw [agrees]
  rfl

theorem pageSize (agrees : Agrees c d) (controls : SearchControls) :
    c.pageSize controls = d.pageSize controls := by
  rw [agrees]
  rfl

theorem verdict (agrees : Agrees c d) (result : LdapResult) (dn : String) :
    c.verdict result dn = d.verdict result dn := by
  simp only [LdapDirContext.verdict, agrees.origin]

/-- Children of the two at one place are one and the same. -/
theorem child (agrees : Agrees c d) (base : String) (controls : List Control) :
    ({ c with base := base, requestControls := controls, responseControls := [] } : LdapDirContext)
      = { d with base := base, requestControls := controls, responseControls := [] } := by
  rw [agrees]

end Agrees

/-- A call from the one place, and the same call from the other. -/
abbrev Same (f : String → String) {α : Type} (x y : Act κ LdapDirContext α) : Prop :=
  Abreast (Aligned f) x y

theorem linkOf_same (aligned : Aligned f c d) :
    Same f (c.linkOf : Act κ _ _) d.linkOf := by
  simp only [linkOf, aligned.agrees.connection]
  split
  · exact .ret _
  · exact .fail _

theorem demand_same {α : Type} (verdict : Except DirError α) :
    Same f (demand verdict : Act κ _ _) (demand verdict) := by
  cases verdict with
  | ok a => exact .ret a
  | error e => exact .fail e

theorem check_same (result : LdapResult) (dn : String) :
    Same f (check result dn : Act κ _ _) (check result dn) := by
  have keeps : ∀ c d : LdapDirContext, Aligned f c d →
      Aligned f { c with responseControls := result.controls }
        { d with responseControls := result.controls } := by
    intro c d aligned
    refine ⟨aligned.names, ?_⟩
    unfold Agrees
    rw [aligned.agrees]
  refine (Abreast.update keeps).bind fun _ => .withSelf fun c d aligned => ?_
  rw [aligned.agrees.verdict]
  exact .ret _

theorem request_same (dn : String) (r : Request) :
    Same f (request dn r : Act κ _ _) (request dn r) := by
  refine .withSelf fun c d aligned => (linkOf_same aligned).bind fun k => ?_
  rw [aligned.agrees.requestControls, aligned.agrees.patience]
  exact (Client.orFail_abreast (Client.exchange_abreast _ _ _ _)).bind fun _ =>
    (check_same _ dn).bind fun _ => .ret _

theorem send_same (dn : String) (r : Request) : Same f (send dn r : Act κ _ _) (send dn r) :=
  (request_same dn r).bind fun _ => demand_same _

theorem deleteEntry_same (dn : String) :
    Same f (deleteEntry dn : Act κ _ _) (deleteEntry dn) := by
  refine (request_same dn _).bind fun answer => ?_
  obtain ⟨reply, verdict⟩ := answer
  dsimp only
  split
  · exact .ret _
  · exact demand_same _

theorem readEntry_same (dn : String) (names : List String) :
    Same f (readEntry dn names : Act κ _ _) (readEntry dn names) := by
  refine .withSelf fun c d aligned => (linkOf_same aligned).bind fun k => ?_
  rw [aligned.agrees.requestControls, aligned.agrees.patience]
  refine (Client.orFail_abreast (Client.searchAll_abreast _ _ _ _)).bind fun found => ?_
  obtain ⟨messages, result⟩ := found
  refine (check_same result dn).bind fun verdict => (demand_same verdict).bind fun _ => ?_
  split
  · exact .withNetwork fun n => .ret _
  · exact .fail _

theorem schemaDn_same (dn : String) : Same f (schemaDn dn : Act κ _ _) (schemaDn dn) := by
  refine (readEntry_same dn _).bind fun entry => ?_
  split
  · exact .ret _
  · exact (readEntry_same "" _).bind fun _ => .ret _

/-- A child at one place, asked for from either of two. -/
theorem child_same (base : String) (controls : List Control) :
    Same f (child base controls : Act κ _ _) (child base controls) := by
  intro c d w aligned
  rw [child_apply, child_apply]
  exact ⟨congrArg Except.ok (aligned.agrees.child base controls),
    congrArg w.holding aligned.agrees.connection, aligned⟩

/-! ### Operations on names -/

theorem bind_same (name : String) (attrs : Attributes) :
    Same f (bind (f name) attrs : Act κ _ _) (bind name attrs) := by
  refine .withSelf fun c d aligned => ?_
  rw [aligned.names]
  exact send_same _ _

theorem unbind_same (name : String) : Same f (unbind (f name) : Act κ _ _) (unbind name) := by
  refine .withSelf fun c d aligned => ?_
  rw [aligned.names]
  exact deleteEntry_same _

theorem rename_same (name newName : String) :
    Same f (rename (f name) (f newName) : Act κ _ _) (rename name newName) := by
  refine .withSelf fun c d aligned => ?_
  rw [aligned.names, aligned.names]
  exact send_same _ _

theorem lookup_same (name : String) : Same f (lookup (f name) : Act κ _ _) (lookup name) := by
  refine .withSelf fun c d aligned => ?_
  rw [aligned.names]
  refine (readEntry_same _ _).bind fun _ => .withSelf fun c d aligned => ?_
  rw [aligned.agrees.requestControls]
  exact child_same _ _

theorem getAttributes_same (name : String) (ids : Option (List String)) :
    Same f (getAttributes (f name) ids : Act κ _ _) (getAttributes name ids) := by
  refine .withSelf fun c d aligned => ?_
  rw [aligned.names]
  exact (readEntry_same _ _).bind fun _ => .ret _

theorem modify_same (name : String) (mods : List Modification) :
    Same f (modify (f name) mods : Act κ _ _) (modify name mods) := by
  unfold modify
  split
  · exact .ret _
  · refine .withSelf fun c d aligned => (linkOf_same aligned).bind fun _ => ?_
    rw [aligned.names]
    dsimp only
    split
    · exact .fail _
    · exact send_same _ _

theorem createSubcontext_same (name : String) (attrs : Attributes) :
    Same f (createSubcontext (f name) attrs : Act κ _ _) (createSubcontext name attrs) := by
  refine (bind_same name attrs).bind fun _ => .withSelf fun c d aligned => ?_
  rw [aligned.names, aligned.agrees.requestControls]
  exact child_same _ _

theorem getSchema_same (name : String) :
    Same f (getSchema (f name) : Act κ _ _) (getSchema name) := by
  refine .withSelf fun c d aligned => ?_
  rw [aligned.names]
  refine (schemaDn_same _).bind fun schema => .withSelf fun c d aligned => ?_
  rw [aligned.agrees.requestControls]
  exact child_same _ _

theorem getSchemaClassDefinition_same (name : String) :
    Same f (getSchemaClassDefinition (f name) : Act κ _ _) (getSchemaClassDefinition name) := by
  refine .withSelf fun c d aligned => ?_
  rw [aligned.names]
  exact (readEntry_same _ _).bind fun _ => (schemaDn_same _).bind fun _ =>
    (readEntry_same _ _).bind fun _ => .ret _

theorem search_same (name filter : String) (controls : SearchControls) :
    Same f (search (f name) filter controls : Act κ _ _) (search name filter controls) := by
  refine .withSelf fun c d aligned => ?_
  rw [aligned.names, aligned.agrees.pageSize, aligned.agrees.requestControls,
    aligned.agrees.patience, aligned.agrees.origin]
  exact (linkOf_same aligned).bind fun k =>
    (Client.orFail_abreast (Client.startSearch_abreast _ _ _ _ _)).bind fun stream =>
      (Abreast.updateNetwork _).bind fun _ => .ret _

theorem searchWithArgs_same (name expr : String) (args : List String)
    (controls : SearchControls) :
    Same f (searchWithArgs (f name) expr args controls : Act κ _ _)
      (searchWithArgs name expr args controls) := by
  unfold searchWithArgs
  split
  · exact search_same _ _ _
  · exact .fail _

/-- The cursor of a listing is made and read alike from either place. -/
theorem list_same (name : String) : Same f (list (f name) : Act κ _ _) (list name) := by
  refine (search_same _ _ _).bind fun cursor => (Abreast.on _ _).bind fun read => ?_
  obtain ⟨outcome, cursor⟩ := read
  refine (Abreast.updateWorld _).bind fun _ => ?_
  split
  · exact .ret _
  · exact .failWith _
  · exact .failWith _

/-- **Only the full name counts.**  An operation on names, asked of two contexts that are aligned
along `f`, of the one on `f name` where of the other on `name`: both reply alike, leave the same
world, and stay aligned. -/
theorem perform_abreast {op : Op} (named : op.names ≠ []) :
    Same f (perform (op.mapNames f) : Act κ _ _) (perform op) := by
  cases op with
  | bind name attrs => exact (bind_same name attrs).bind fun _ => .ret _
  | rebind name attrs =>
      exact ((unbind_same name).bind fun _ => bind_same name attrs).bind fun _ => .ret _
  | unbind name => exact (unbind_same name).bind fun _ => .ret _
  | rename name newName => exact (rename_same name newName).bind fun _ => .ret _
  | lookup name => exact (lookup_same name).map _
  | list name => exact (list_same name).map _
  | getAttributes name ids => exact (getAttributes_same name ids).map _
  | modify name mods => exact (modify_same name mods).bind fun _ => .ret _
  | createSubcontext name attrs => exact (createSubcontext_same name attrs).map _
  | destroySubcontext name => exact (unbind_same name).bind fun _ => .ret _
  | getSchema name => exact (getSchema_same name).map _
  | getSchemaClassDefinition name => exact (getSchemaClassDefinition_same name).map _
  | search name filter controls => exact (search_same name filter controls).map _
  | searchWithArgs name expr args controls =>
      exact (searchWithArgs_same name expr args controls).map _
  | searchByAttributes name matching ids => exact (search_same name _ _).map _
  | addToEnvironment property value => exact absurd rfl named
  | removeFromEnvironment property => exact absurd rfl named
  | extendedOperation r => exact absurd rfl named
  | newInstance controls => exact absurd rfl named
  | reconnect controls => exact absurd rfl named
  | setRequestControls controls => exact absurd rfl named

end LdapDirContext

end ManagedLdap
