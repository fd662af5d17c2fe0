/-
# ManagedLdap.Proofs.Ldap.SearchRequests -- what the start of a search asks of its server

A search is stated with a name, a filter and its controls.  One request comes of it, or none: the
context may have no connection, its server may have gone, the caller may have paging among the
controls of the context already, and the filter may be no filter.  `sentOver_search` says which
request, over which connection.
-/
import ManagedLdap.Proofs.Ldap.Renaming

namespace ManagedLdap

set_option autoImplicit false

/-- A holder more sends nothing. -/
theorem Network.sentOver_hold (n : Network) (link k : LinkId) :
    (n.hold link).sentOver k = n.sentOver k := by
  unfold sentOver hold
  rw [link?_modifyLink]
  by_cases here : link = k
  · cases found : n.link? k <;> simp [here]
  · simp [here]

namespace Client

variable {κ σ : Type}

/-- Paging is asked for a second time among the controls. -/
def pagingClash (controls : List Control) (size : Option Int) : Bool :=
  size.isSome && controls.any fun c => c.oid == Control.pagedResults

/-- The requests that the start of a search sends: none without a filter. -/
def opening (controls : List Control) (size : Option Int) (spec : SearchSpec) :
    List SentRequest :=
  ((Filter.parse? spec.filter).map fun tree =>
    ⟨.search (spec.toRequest tree), pageControls controls size []⟩).toList

/-- A search is refused before anything is sent, or its request goes out over its connection. -/
theorem sentOver_startSearch (link : LinkId) (patience : Option Nat) (controls : List Control)
    (size : Option Int) (spec : SearchSpec) (s : σ) (w : World κ) (k : LinkId) :
    (startSearch link patience controls size spec s w).2.2.network.sentOver k = w.network.sentOver k ++
      if link = k ∧ w.network.isOpen k = true ∧ pagingClash controls size = false then
        opening controls size spec
      else [] := by
  unfold startSearch
  cases clash : pagingClash controls size with
  | true =>
      rw [pagingClash] at clash
      simp [clash]
  | false =>
      rw [pagingClash] at clash
      rw [clash, opening]
      cases Filter.parse? spec.filter with
      | none => simp
      | some tree =>
          simp only [Bool.false_eq_true, if_false, Act.bind_apply, Act.network_apply,
            requestPage_apply]
          by_cases here : link = k
          · subst here
            cases listens : w.network.isOpen link with
            | true => simp [Search.page, Network.sentOver_exchanged _ _ _ _ _ listens]
            | false => simp
          · cases listens : w.network.isOpen link with
            | true => simp [Network.sentOver_exchanged _ _ _ _ _ listens, here]
            | false => simp [here]

end Client

namespace LdapDirContext

variable {κ : Type}

/-- **The start of a search.**  Its one request goes out over the connection of the context, if
its server listens and paging is not asked for twice; nothing else is sent over any connection. -/
theorem sentOver_search (name filter : String) (controls : SearchControls) (c : LdapDirContext)
    (w : World κ) (k : LinkId) :
    (search name filter controls c w).2.2.network.sentOver k = w.network.sentOver k ++
      if c.connection = some k ∧ w.network.isOpen k = true ∧
          Client.pagingClash c.requestControls (c.paging controls) = false then
        Client.opening c.requestControls (c.paging controls)
          (searchSpec (c.resolve name) filter controls)
      else [] := by
  cases held : c.connection with
  | none => simp [search, linkOf, held, Act.bind_apply]
  | some link =>
      have sameTraffic : (search name filter controls c w).2.2.network.sentOver k =
          (Client.startSearch link c.patience c.requestControls (c.paging controls)
            (searchSpec (c.resolve name) filter controls) c w).2.2.network.sentOver k := by
        simp only [search, linkOf, held, Client.orFail, Act.bind_apply, Act.self_apply,
          Act.pure_apply, paging]
        generalize Client.startSearch link c.patience c.requestControls _
          (searchSpec (c.resolve name) filter controls) c w = y
        obtain ⟨_ | _ | stream, c', w'⟩ := y
        · rfl
        · rfl
        · exact Network.sentOver_hold w'.network link k
      rw [sameTraffic, Client.sentOver_startSearch]
      simp only [Option.some.injEq]

end LdapDirContext

end ManagedLdap
