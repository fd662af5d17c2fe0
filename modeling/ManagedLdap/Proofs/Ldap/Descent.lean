/-
# ManagedLdap.Proofs.Ldap.Descent -- names through children

Looking a name up, or creating an entry under it, hands out a child: a context whose base is the
full name.  A `Descent` is a context, one reached from it through children of children, and the
name that leads from the one to the other.  It stays a descent whatever either context is asked
for meanwhile, since nothing ever changes a base (`run_base`).

Composing is associative, so what the lower context calls `name` the upper one calls `name` below
the name of the descent (`Descent.resolve`).  `names_compose_through_children` takes this from
names to operations: they target the same entry from either place, and where the two contexts
agree otherwise, as they do when the child was just handed out, nobody can tell which was asked.
-/
import ManagedLdap.Proofs.Ldap.AfterClose
import ManagedLdap.Proofs.Ldap.Places
import ManagedLdap.Proofs.Name.Composition

namespace ManagedLdap

set_option autoImplicit false

namespace LdapDirContext

open Name (compose relativeTo compose_assoc)

variable {κ : Type} {n name : String} {c d p p' : LdapDirContext}

/-! ## Bases -/

theorem Like.agrees (like : Like c d) (base : String) (response : List Control) :
    Agrees d { c with base := base, responseControls := response } := by
  unfold Agrees
  rw [like]

theorem perform_base (op : Op) (c : LdapDirContext) (w : World κ) :
    (perform op c w).2.1.base = c.base := by
  cases stays : op.opensConnection with
  | true =>
      cases op with
      | reconnect controls =>
          rw [perform_reconnect]
          rcases reconnect_network controls c w with
            ⟨failure, w', failed, -⟩ | ⟨k, net, w', opened, -⟩
          · rw [failed]
          · rw [opened]
      | _ => cases stays
  | false =>
      cases asks : isLocal op with
      | true =>
          cases op with
          | addToEnvironment property value => rfl
          | removeFromEnvironment property => rfl
          | setRequestControls controls => rfl
          | _ => cases asks
      | false =>
          have offers : Offers c _ held (Handed c op) (perform op : Act κ _ _) :=
            perform_offers stays asks
          exact (offers c w rfl).1.base

/-- No call moves a context. -/
theorem run_base (call : Call) (c : LdapDirContext) (w : World κ) :
    (call.run c w).2.1.base = c.base := by
  cases call with
  | perform op =>
      simp only [Call.run, Act.map_apply]
      exact perform_base op c w
  | ask q => rfl
  | close =>
      obtain ⟨w', closed, -⟩ := c.close_network w
      simp only [Call.run, Act.bind_apply, closed]
      rfl

theorem run_resolve (call : Call) (c : LdapDirContext) (w : World κ) (name : String) :
    (call.run c w).2.1.resolve name = c.resolve name := by
  rw [resolve, resolve, run_base]

/-! ## Children -/

/-- `p` hands out `d` when `name` is looked up from it or created there, which makes it `p'`. -/
inductive Opens (κ : Type) (name : String) (p p' d : LdapDirContext) : Prop
  | looked {w w' : World κ} (found : perform (.lookup name) p w = (.ok (.context d), p', w'))
  | created {attrs : Attributes} {w w' : World κ}
      (made : perform (.createSubcontext name attrs) p w = (.ok (.context d), p', w'))

/-- What is handed out in a reply was handed out by the call behind it. -/
theorem handed_of_reply {x : Act κ LdapDirContext LdapDirContext} {w w' : World κ}
    (replied : (Reply.context <$> x : Act κ _ (Reply _ SearchCursor)) p w =
      (.ok (.context d), p', w')) : x p w = (.ok d, p', w') := by
  rw [Act.map_apply] at replied
  generalize x p w = y at replied ⊢
  obtain ⟨failure | c, q, v⟩ := y
  · cases replied
  · cases replied
    rfl

/-- A child that is handed out after some requests, at a place that these do not change. -/
theorem handed_out {α : Type} {x : Act κ LdapDirContext α} (place : LdapDirContext → String)
    (asks : Asks p x) (fixed : ∀ c, Like p c → place c = place p) {w w' : World κ}
    (handed : (x >>= fun _ => Act.self >>= fun c => child (place c) c.requestControls) p w =
      (.ok d, p', w')) :
    Like p p' ∧ d = { p with base := place p, responseControls := [] } := by
  obtain ⟨like, -, -⟩ := asks p w rfl
  rw [Act.bind_apply] at handed
  generalize x p w = y at like handed
  obtain ⟨failure | a, c, w₁⟩ := y
  · cases handed
  · simp only [Act.bind_apply, Act.self_apply, child_apply] at handed
    cases handed
    dsimp only at like
    refine ⟨like, ?_⟩
    rw [fixed _ like, like]

theorem Opens.child (opens : Opens κ name p p' d) :
    Like p p' ∧ d = { p with base := p.resolve name, responseControls := [] } := by
  cases opens with
  | looked found =>
      have handed := handed_of_reply found
      exact handed_out (fun _ => p.resolve name) (readEntry_asks _ ["1.1"])
        (fun _ _ => rfl) handed
  | created made =>
      -- The name is resolved again once the entry is there, with the base that it had before.
      have handed := handed_of_reply made
      refine handed_out (fun c => c.resolve name) (bind_asks name _) (fun c like => ?_)
        handed
      exact like.resolve name

/-- What is handed out is the child at the full name. -/
theorem Opens.at_name (opens : Opens κ name p p' d) :
    Opens κ name p p' { p with base := p.resolve name, responseControls := [] } := by
  obtain ⟨-, rfl⟩ := opens.child
  exact opens

/-- A call that succeeds hands out a context. -/
theorem exists_handed {x : Act κ LdapDirContext LdapDirContext} {w : World κ}
    (succeeds : ((Reply.context <$> x : Act κ _ (Reply _ SearchCursor)) p w).1.isOk = true) :
    ∃ d, (Reply.context <$> x : Act κ _ (Reply _ SearchCursor)) p w =
      (.ok (.context d), ((Reply.context <$> x : Act κ _ (Reply _ SearchCursor)) p w).2) := by
  rw [Act.map_apply] at succeeds ⊢
  generalize x p w = y at succeeds ⊢
  obtain ⟨failure | d, rest⟩ := y
  · cases succeeds
  · exact ⟨d, rfl⟩

/-- A lookup that succeeds hands out a child. -/
theorem Opens.of_lookup {w : World κ} (found : (perform (.lookup name) p w).1.isOk = true) :
    Opens κ name p (perform (.lookup name) p w).2.1
      { p with base := p.resolve name, responseControls := [] } := by
  obtain ⟨d, handed⟩ := exists_handed found
  exact (Opens.looked handed).at_name

/-- So does the creation of an entry. -/
theorem Opens.of_creation {attrs : Attributes} {w : World κ}
    (made : (perform (.createSubcontext name attrs) p w).1.isOk = true) :
    Opens κ name p (perform (.createSubcontext name attrs) p w).2.1
      { p with base := p.resolve name, responseControls := [] } := by
  obtain ⟨d, handed⟩ := exists_handed made
  exact (Opens.created handed).at_name

/-- A child and the context it was just handed out by agree. -/
theorem Opens.agrees (opens : Opens κ name p p' d) : Agrees p' d := by
  obtain ⟨like, rfl⟩ := opens.child
  exact like.agrees _ []

/-! ## Children of children -/

/-- `d` was reached from `c` through children, `n` being the name that led there, and either may
have been called in any way since. -/
inductive Descent (κ : Type) : LdapDirContext → String → LdapDirContext → Prop
  | child {name : String} {p p' d : LdapDirContext} (opens : Opens κ name p p' d) :
      Descent κ p' name d
  | further {n name : String} {c p p' d : LdapDirContext} (above : Descent κ c n p)
      (opens : Opens κ name p p' d) : Descent κ c (compose name n) d
  | lowerCalled {n : String} {c d : LdapDirContext} (descent : Descent κ c n d) (call : Call)
      (w : World κ) : Descent κ c n (call.run d w).2.1
  | upperCalled {n : String} {c d : LdapDirContext} (descent : Descent κ c n d) (call : Call)
      (w : World κ) : Descent κ (call.run c w).2.1 n d

/-- A name in a child is that name below the name of the child. -/
theorem resolve_child (p : LdapDirContext) (inner name : String) (response : List Control) :
    LdapDirContext.resolve { p with base := p.resolve inner, responseControls := response } name =
      p.resolve (compose name inner) := by
  simp only [resolve, compose_assoc]

/-- What the lower context calls `name`, the upper one calls `name` below the descent. -/
theorem Descent.resolve (descent : Descent κ c n d) (name : String) :
    c.resolve (compose name n) = d.resolve name := by
  induction descent generalizing name with
  | child opens =>
      obtain ⟨like, rfl⟩ := opens.child
      rw [like.resolve, resolve_child]
  | further above opens ih =>
      obtain ⟨-, rfl⟩ := opens.child
      rw [compose_assoc, ih, resolve_child]
  | lowerCalled descent call w ih => rw [ih, run_resolve]
  | upperCalled descent call w ih => rw [run_resolve, ih]

/-- An operation in the lower context is about what it is about in the upper one, by names below
the descent. -/
theorem Descent.targets (descent : Descent κ c n d) (op : Op) :
    c.targets (op.mapNames fun b => compose b n) = d.targets op := by
  simp only [LdapDirContext.targets, Op.names_mapNames, List.map_map, Function.comp_def,
    descent.resolve]

/-- **Names compose through contexts.**  Composing is associative, blank names add nothing, and
`relativeTo` recovers what was composed.  A child has the full name as its base, and agrees with
the context that handed it out.  From then on, through however many children and whatever the
contexts were called for: an operation is about the same entries as it is above, on the composed
names; and if it has names, it does what it does on the composed ones at the place above, with
whatever connection, properties and controls the lower context has by then. -/
theorem names_compose_through_children :
    (∀ b a base, compose b (compose a base) = compose (compose b a) base) ∧
    (∀ blank name, Text.trim blank = "" →
      compose blank name = Text.trim name ∧ compose name blank = Text.trim name) ∧
    (∀ b base, Text.trim base = base → relativeTo (compose b base) base = Text.trim b) ∧
    (∀ a p p' d, Opens κ a p p' d →
      p'.base = p.base ∧ d.base = compose a p.base ∧ Agrees p' d) ∧
    ∀ c n d, Descent κ c n d →
      (∀ op, d.targets op = c.targets (op.mapNames fun b => compose b n)) ∧
      ∀ e, e.base = c.base → Agrees e d → ∀ op : Op, op.names ≠ [] → ∀ w : World κ,
        let lower := perform op d w
        let upper := perform (op.mapNames fun b => compose b n) e w
        lower.1 = upper.1 ∧ lower.2.2 = upper.2.2 ∧ Agrees upper.2.1 lower.2.1 := by
  refine ⟨compose_assoc, fun blank name nothing => ⟨Name.compose_blank nothing name,
    Name.compose_root name nothing⟩, fun b base => Name.relativeTo_compose b, ?_, ?_⟩
  · intro a p p' d opens
    obtain ⟨like, child⟩ := opens.child
    exact ⟨like.base, by simp only [child, resolve], opens.agrees⟩
  · intro c n d descent
    refine ⟨fun op => (descent.targets op).symm, fun e place agrees op named w => ?_⟩
    have aligned : Aligned (fun b => compose b n) e d := by
      refine ⟨fun b => ?_, agrees⟩
      rw [← descent.resolve b, resolve, resolve, place]
    obtain ⟨reply, world, aligned'⟩ := perform_abreast named e d w aligned
    exact ⟨reply.symm, world.symm, aligned'.agrees⟩

/-- A connection over which one entry is found, and whatever else is asked succeeds. -/
def stocked : World Unit :=
  { network := { Network.loopback [] with
      links := [⟨"h:389", [{ messages := [.entry ⟨"ou=a,dc=x", []⟩] }], [], true, 1,
        .standard⟩] } }

/-- An entry is looked up, another one created under it, and one below that is moved: through the
child of the child, or by its name from where they came. -/
theorem names_compose_through_children_of_two :
    let upper := (perform (.lookup " ou=a ") listener stocked).2.1
    let child : LdapDirContext := { listener with base := listener.resolve " ou=a " }
    let lower : LdapDirContext := { child with base := child.resolve "cn=b" }
    Descent Unit upper (compose "cn=b" " ou=a ") lower ∧
      lower.targets (.rename "uid=c" "uid=d") =
        ["uid=c,cn=b,ou=a,dc=x", "uid=d,cn=b,ou=a,dc=x"] ∧
      (perform (.rename "uid=c" "uid=d") lower stocked).2.2 =
        (perform (.rename "uid=c,cn=b,ou=a" "uid=d,cn=b,ou=a") upper stocked).2.2 := by
  intro upper child lower
  have found : Opens Unit " ou=a " listener upper child := .of_lookup (by decide +kernel)
  have made : Opens Unit "cn=b" child (perform (.createSubcontext "cn=b" .empty) child stocked).2.1
      lower := .of_creation (by decide +kernel)
  have descent : Descent Unit upper (compose "cn=b" " ou=a ") lower := .further (.child found) made
  obtain ⟨like, -⟩ := found.child
  have agrees : Agrees upper lower := like.agrees _ []
  obtain ⟨-, same⟩ := (@names_compose_through_children Unit).2.2.2.2 upper _ lower descent
  obtain ⟨-, world, -⟩ := same upper rfl agrees (.rename "uid=c" "uid=d") (by decide) stocked
  have old : compose "uid=c" (compose "cn=b" " ou=a ") = "uid=c,cn=b,ou=a" := by decide +kernel
  have new : compose "uid=d" (compose "cn=b" " ou=a ") = "uid=d,cn=b,ou=a" := by decide +kernel
  refine ⟨descent, by decide +kernel, world.trans ?_⟩
  simp only [Op.mapNames, old, new]

end LdapDirContext

end ManagedLdap
