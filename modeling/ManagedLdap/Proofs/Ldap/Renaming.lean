/-
# ManagedLdap.Proofs.Ldap.Renaming -- where a renamed entry goes

A move names an entry, its new first component and, where it leaves its parent, the new parent.
What comes of it is the server's doing: `moved` is the name of the entry afterwards, below the new
parent if one is named and below the old one else, with nothing behind it at the root.

`splitRdn` trims what it answers, and trims away what belongs to a name whose commas have blank
characters around them; and it answers the empty parent for a name that ends in a comma as for one
without any.  Names of which neither is true are `Neat`, and are put together again from their
parts (`Neat.splitRdn_parts`).  Between neat names a renaming is one request, and the entry has
the new name afterwards.
-/
import ManagedLdap.Proofs.Name.Components
import ManagedLdap.Proofs.Name.Composition
import ManagedLdap.Proofs.Ldap.AfterClose
import ManagedLdap.Proofs.Ldap.Conversation

namespace ManagedLdap

set_option autoImplicit false

open Text (sameFold trim isBlank Trimmed)

/-! ## Names and their parts -/

namespace Name

/-- Nothing blank stands around the first comma that is not escaped, and a comma at the end is
escaped. -/
structure Neat (dn : String) : Prop where
  apart {rdn parent : List Char} : RdnText rdn → dn.toList = rdn ++ ',' :: parent →
    (∀ c ∈ rdn.getLast?, isBlank c = false) ∧ ∀ c ∈ parent.head?, isBlank c = false
  ends {front : List Char} : dn.toList = front ++ [','] → escapes front = true

/-- The name of what an entry is below. -/
def parentName (dn : String) : String := String.ofList (parentOf dn.toList)

/-- The name of an entry below a parent; there is nothing behind it at the root. -/
def placed (rdn parent : String) : String := if parent.isEmpty then rdn else rdn ++ "," ++ parent

/-- The name that an entry has after it was moved. -/
def moved (dn newRdn : String) (newSuperior : Option String) : String :=
  placed newRdn (newSuperior.getD (parentName dn))

theorem placed_below (rdn : String) {parent : String} (below : parent ≠ "") :
    placed rdn parent = rdn ++ "," ++ parent := by
  simp [placed, below]

/-- Letter case of the parent is letter case of the name. -/
theorem sameFold_placed (rdn : String) {parent parent' : String}
    (same : sameFold parent parent' = true) :
    sameFold (placed rdn parent) (placed rdn parent') = true := by
  have lower := beq_iff_eq.1 same
  by_cases root : parent = ""
  · subst root
    obtain rfl : parent' = "" :=
      String.toList_eq_nil_iff.1 (List.map_eq_nil_iff.1 lower.symm)
    exact Text.sameFold_refl _
  · have root' : parent' ≠ "" := by
      rintro rfl
      exact root (String.toList_eq_nil_iff.1 (List.map_eq_nil_iff.1 lower))
    rw [placed_below rdn root, placed_below rdn root', sameFold, toList_comma, toList_comma,
      List.map_append, List.map_append, List.map_cons, List.map_cons, lower, beq_self_eq_true]

namespace Neat

variable {dn : String}

/-- A name with a comma is neat by what stands around the first that counts, and at the end. -/
theorem of_splitComma {rdn parent : List Char}
    (found : splitComma false dn.toList = some (rdn, parent))
    (last : rdn.getLast?.any isBlank = false) (first : parent.head?.any isBlank = false)
    (solid : dn.toList.getLast? ≠ some ',') : Neat dn where
  apart text spelt := by
    rw [spelt, text.splitComma_eq] at found
    cases found
    exact ⟨fun c found => (Option.any_eq_false _ _).1 last c found,
      fun c found => (Option.any_eq_false _ _).1 first c found⟩
  ends spelt := by
    rw [spelt, List.getLast?_concat] at solid
    exact absurd rfl solid

/-- A neat name without blank characters around it falls apart into its first component and its
parent, and is put together of them. -/
theorem splitRdn_parts (neat : Neat dn) (trimmed : Trimmed dn.toList) :
    components (splitRdn dn).1.toList = [(splitRdn dn).1.toList] ∧
      (splitRdn dn).2 = parentName dn ∧ placed (splitRdn dn).1 (splitRdn dn).2 = dn := by
  unfold splitRdn
  cases found : splitComma false dn.toList with
  | none =>
      have alone : components dn.toList = [dn.toList] := componentsFrom_of_splitComma found
      simp only [trimmed.trim_eq]
      refine ⟨alone, ?_, rfl⟩
      rw [parentName, parentOf, alone]
      rfl
  | some parts =>
      obtain ⟨rdn, parent⟩ := parts
      obtain ⟨spelt, text⟩ := rdnText_of_splitComma found
      replace text : RdnText rdn := text
      obtain ⟨last, first⟩ := neat.apart text spelt
      -- The comma that was found is not escaped, so it is not at the end.
      have below : parent ≠ [] := by
        rintro rfl
        exact absurd (neat.ends spelt) (by simp [text.escapes_eq])
      rw [spelt, List.append_cons] at trimmed
      have back : Trimmed parent := ⟨first, trimmed.back⟩
      rw [List.append_assoc] at trimmed
      have front : Trimmed rdn := ⟨trimmed.front, last⟩
      simp only [trim, String.toList_ofList, front.trimChars_eq, back.trimChars_eq]
      refine ⟨text.components_eq, ?_, ?_⟩
      · rw [parentName, spelt, text.parentOf_eq]
      · rw [placed_below _ (mt String.ofList_eq_empty_iff.1 below)]
        refine String.toList_inj.1 ?_
        rw [toList_comma, String.toList_ofList, String.toList_ofList, spelt]

end Neat

end Name

/-! ## Single requests -/

theorem Network.sentOver_exchanged (n : Network) (k j : LinkId) (r : SentRequest) (closes : Bool)
    (listens : n.isOpen k = true) :
    ((n.send k r).takeReply k closes).sentOver j = n.sentOver j ++ if k = j then [r] else [] := by
  rw [send, takeReply, modifyLink_modifyLink]
  unfold sentOver
  rw [link?_modifyLink]
  by_cases here : k = j
  · subst here
    cases found : n.link? k with
    | none => simp [isOpen, found] at listens
    | some l => simp
  · simp [here]

namespace LdapDirContext

variable {κ : Type} {c : LdapDirContext}

theorem demand_world {α : Type} (verdict : Except DirError α) (w : World κ) :
    (demand verdict c w).2.2 = w := by
  cases verdict <;> rfl

/-- What is done with a response is done within the context. -/
theorem send_world {link : LinkId} (held : c.connection = some link) (dn : String) (r : Request)
    (w : World κ) :
    (send dn r c w).2.2 = (Client.exchange link c.patience c.requestControls r c w).2.2 := by
  simp only [send, request, linkOf, held, Client.orFail, Act.bind_apply, Act.self_apply,
    Act.pure_apply]
  generalize Client.exchange link c.patience c.requestControls r c w = y
  obtain ⟨_ | _ | reply, c', w'⟩ := y
  · rfl
  · rfl
  · exact demand_world _ w'

/-- A request goes out once over the connection of the context, if its server listens, and nothing
else does over any connection. -/
theorem sentOver_send (dn : String) (r : Request) (c : LdapDirContext) (w : World κ) (k : LinkId) :
    (send dn r c w).2.2.network.sentOver k = w.network.sentOver k ++
      if c.connection = some k ∧ w.network.isOpen k = true then [⟨r, c.requestControls⟩]
      else [] := by
  cases held : c.connection with
  | none => simp [send_closed held]
  | some link =>
      rw [send_world held, Client.exchange_apply]
      by_cases here : link = k
      · subst here
        cases listens : w.network.isOpen link with
        | true => simp [Network.sentOver_exchanged _ _ _ _ _ listens]
        | false => simp
      · cases listens : w.network.isOpen link with
        | true => simp [Network.sentOver_exchanged _ _ _ _ _ listens, here]
        | false => simp [here]

/-! ## Renaming -/

/-- The request that renames an entry to a neat name: its new component is one component, the entry
has the new name afterwards, and no parent is named just where the old one stays. -/
theorem renameRequest_moves {oldDn newDn : String} (old : Name.Neat oldDn) (new : Name.Neat newDn)
    (oldTrimmed : Trimmed oldDn.toList) (newTrimmed : Trimmed newDn.toList) :
    ∃ newRdn newSuperior,
      renameRequest oldDn newDn = .modifyDn oldDn newRdn true newSuperior ∧
      Name.components newRdn.toList = [newRdn.toList] ∧
      sameFold (Name.moved oldDn newRdn newSuperior) newDn = true ∧
      (newSuperior = none ↔
        sameFold (Name.parentName newDn) (Name.parentName oldDn) = true) := by
  obtain ⟨-, oldParent, -⟩ := old.splitRdn_parts oldTrimmed
  obtain ⟨single, newParent, whole⟩ := new.splitRdn_parts newTrimmed
  have request : renameRequest oldDn newDn = .modifyDn oldDn (Name.splitRdn newDn).1 true
      (if sameFold (Name.splitRdn newDn).2 (Name.splitRdn oldDn).2 then none
      else some (Name.splitRdn newDn).2) := rfl
  rw [oldParent, newParent] at request
  rw [newParent] at whole
  refine ⟨_, _, request, single, ?_, by split <;> simp [*]⟩
  rw [Name.moved]
  split
  · -- The entry stays below its parent, which the new name may spell otherwise.
    next same =>
      have placed := Name.sameFold_placed (Name.splitRdn newDn).1
        (Text.sameFold_iff.2 (Text.sameFold_iff.1 same).symm)
      rwa [whole] at placed
  · rw [Option.getD_some, whole]
    exact Text.sameFold_refl newDn

/-- Within its parent an entry needs none; the root is a parent, too. -/
example : renameRequest "cn=a,dc=x" "cn=b,DC=X" = .modifyDn "cn=a,dc=x" "cn=b" true none ∧
    renameRequest "cn=a,dc=x" "cn=b" = .modifyDn "cn=a,dc=x" "cn=b" true (some "") :=
  ⟨rfl, rfl⟩

/-- **Renaming.**  Between neat names one request goes out, over the connection of the context if
its server listens.  It names the entry, removes its old component and has the new name for what
the entry is called afterwards, up to letter case; it names a parent just where the entry leaves
its own. -/
theorem rename_moves {old new : String} {c : LdapDirContext} (oldNeat : Name.Neat (c.resolve old))
    (newNeat : Name.Neat (c.resolve new)) (w : World κ) :
    ∃ newRdn newSuperior,
      (∀ k, (rename old new c w).2.2.network.sentOver k = w.network.sentOver k ++
        if c.connection = some k ∧ w.network.isOpen k = true then
          [⟨.modifyDn (c.resolve old) newRdn true newSuperior, c.requestControls⟩]
        else []) ∧
      Name.components newRdn.toList = [newRdn.toList] ∧
      sameFold (Name.moved (c.resolve old) newRdn newSuperior) (c.resolve new) = true ∧
      (newSuperior = none ↔ sameFold (Name.parentName (c.resolve new))
        (Name.parentName (c.resolve old)) = true) := by
  have trimmed (name : String) : Trimmed (c.resolve name).toList := by
    rw [resolve, ← Name.trim_compose]
    exact Text.trimmed_trim _
  obtain ⟨newRdn, newSuperior, request, moves⟩ :=
    renameRequest_moves oldNeat newNeat (trimmed old) (trimmed new)
  refine ⟨newRdn, newSuperior, fun k => ?_, moves⟩
  rw [← request]
  exact sentOver_send _ _ c w k

/-- An entry gets a new name within its unit, which is written in another letter case, and another
one below the base of the context. -/
theorem rename_moves_out_of_unit :
    (∃ newRdn, (rename "cn=a,ou=b" "cn=c,OU=B" listener listening).2.2.network.sentOver 0 =
        [⟨.modifyDn "cn=a,ou=b,dc=x" newRdn true none, []⟩] ∧
      sameFold (Name.moved "cn=a,ou=b,dc=x" newRdn none) "cn=c,OU=B,dc=x" = true) ∧
    ∃ newRdn parent, (rename "cn=a,ou=b" "cn=c" listener listening).2.2.network.sentOver 0 =
        [⟨.modifyDn "cn=a,ou=b,dc=x" newRdn true (some parent), []⟩] ∧
      sameFold (Name.moved "cn=a,ou=b,dc=x" newRdn (some parent)) "cn=c,dc=x" = true := by
  have old : Name.splitComma false (listener.resolve "cn=a,ou=b").toList =
      some ("cn=a".toList, "ou=b,dc=x".toList) := by decide +kernel
  have within : Name.splitComma false (listener.resolve "cn=c,OU=B").toList =
      some ("cn=c".toList, "OU=B,dc=x".toList) := by decide +kernel
  have outside : Name.splitComma false (listener.resolve "cn=c").toList =
      some ("cn=c".toList, "dc=x".toList) := by decide +kernel
  have oldNeat := Name.Neat.of_splitComma old (by decide) (by decide) (by decide +kernel)
  obtain ⟨newRdn, newSuperior, sent, -, whole, stays⟩ := rename_moves oldNeat
    (.of_splitComma within (by decide) (by decide) (by decide +kernel)) listening
  obtain ⟨newRdn', newSuperior', sent', -, whole', leaves⟩ := rename_moves oldNeat
    (.of_splitComma outside (by decide) (by decide) (by decide +kernel)) listening
  constructor
  · obtain rfl : newSuperior = none := stays.2 (by decide +kernel)
    exact ⟨newRdn, sent 0, whole⟩
  · obtain ⟨parent, rfl⟩ := Option.ne_none_iff_exists'.1 (mt leaves.1 (by decide +kernel))
    exact ⟨newRdn', parent, sent' 0, whole'⟩

end LdapDirContext

end ManagedLdap
