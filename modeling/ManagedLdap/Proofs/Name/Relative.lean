/-
# ManagedLdap.Proofs.Name.Relative -- names relative to a base, component by component

`relativeTo` answers a part of the full name it was given, and the caller takes that part, a comma
and the base for the full name again.  As texts they always are: `Below` is that, up to letter
case, and `relativeTo_of_below` and `relativeTo_of_not_below` are what `relativeTo` goes by.

As names they are not.  What stands in a full name are components, and a comma that a backslash
escapes belongs to one of them.  `Denotes` asks that the components of the part and those of the
base are those of the full name; `denotes_iff` says that this depends on one thing alone, the
backslashes at the end of the part.  `relativeTo` does not look at them.
-/
import ManagedLdap.Proofs.Name.Components
import ManagedLdap.Proofs.Name.Composition
import ManagedLdap.Ldap.Message

namespace ManagedLdap.Name

set_option autoImplicit false

open Text (sameFold)

/-! ## Below a base -/

/-- A full name is a part, a comma and a base, up to letter case in the base. -/
def Below (dn rdns base : String) : Prop :=
  ∃ tail, dn = rdns ++ "," ++ tail ∧ sameFold tail base = true

/-- The components of a part and of a base are those of a full name, up to letter case. -/
def Denotes (rdns base dn : String) : Prop :=
  (components dn.toList).map (List.map Char.toLower) =
    (components rdns.toList ++ components base.toList).map (List.map Char.toLower)

variable {dn rdns base : String}

/-- What is below a base is longer than the base. -/
theorem Below.sameFold_eq_false (below : Below dn rdns base) : sameFold dn base = false := by
  obtain ⟨tail, rfl, same⟩ := below
  refine Bool.eq_false_iff.2 fun whole => ?_
  have lengths := congrArg List.length (beq_iff_eq.1 whole)
  have lengths' := congrArg List.length (beq_iff_eq.1 same)
  rw [toList_comma] at lengths
  simp only [List.length_map, List.length_append, List.length_cons] at lengths lengths'
  omega

theorem above?_toList_eq_some_iff {chars : List Char} :
    above? dn.toList base.toList = some chars ↔
      chars ≠ [] ∧ Below dn (String.ofList chars) base := by
  rw [above?_eq_some_iff]
  refine and_congr_right fun _ => ⟨?_, ?_⟩
  · rintro ⟨tail, spelt, same⟩
    refine ⟨String.ofList tail, String.toList_inj.1 ?_, ?_⟩
    · rw [toList_comma, String.toList_ofList, String.toList_ofList, spelt]
    · rw [sameFold, String.toList_ofList, same, beq_self_eq_true]
  · rintro ⟨tail, rfl, same⟩
    exact ⟨tail.toList, by rw [toList_comma, String.toList_ofList], beq_iff_eq.1 same⟩

/-! ## What is answered -/

theorem relativeTo_of_sameFold (named : base ≠ "") (same : sameFold dn base = true) :
    relativeTo dn base = "" := by
  simp [relativeTo, named, same]

/-- Of what is below a base, the part before the comma is answered. -/
theorem relativeTo_of_below (named : base ≠ "") (part : rdns ≠ "") (below : Below dn rdns base) :
    relativeTo dn base = rdns := by
  have found : above? dn.toList base.toList = some rdns.toList := by
    refine above?_toList_eq_some_iff.2 ⟨mt String.toList_eq_nil_iff.1 part, ?_⟩
    rwa [String.ofList_toList]
  simp [relativeTo, named, below.sameFold_eq_false, found]

/-- Of what is not below a base, all is answered. -/
theorem relativeTo_of_not_below (other : sameFold dn base = false)
    (apart : ∀ rdns, rdns ≠ "" → ¬ Below dn rdns base) : relativeTo dn base = dn := by
  have none_found : above? dn.toList base.toList = none := by
    refine Option.eq_none_iff_forall_not_mem.2 fun chars found => ?_
    obtain ⟨part, below⟩ := above?_toList_eq_some_iff.1 found
    exact apart _ (mt String.ofList_eq_empty_iff.1 part) below
  rw [relativeTo, other, none_found]
  simp

/-! ## Components -/

/-- Text by text a part and a base are the full name; component by component they are it just when
the comma between them counts. -/
theorem denotes_iff (below : Below dn rdns base) :
    Denotes rdns base dn ↔ escapes rdns.toList = false := by
  obtain ⟨tail, rfl, same⟩ := below
  have bases : (components tail.toList).map (List.map Char.toLower) =
      (components base.toList).map (List.map Char.toLower) := by
    rw [components, components, ← componentsFrom_lower, ← componentsFrom_lower, beq_iff_eq.1 same]
  rw [Denotes, toList_comma, List.map_append, ← bases, ← List.map_append]
  constructor
  · intro same
    refine Bool.eq_false_iff.2 fun joined => ?_
    -- A comma that does not count leaves one component less than both sides have.
    have lengths := congrArg List.length same
    have fewer := length_components_comma joined tail.toList
    rw [List.length_map, List.length_map, List.length_append] at lengths
    omega
  · intro counts
    rw [components_comma counts]

/-- A part that is neither empty nor all of the full name stands below the base. -/
theorem below_of_relativeTo (part : relativeTo dn base ≠ "") (other : relativeTo dn base ≠ dn) :
    Below dn (relativeTo dn base) base := by
  have named : base ≠ "" := fun none => other (by simp [relativeTo, none])
  have longer : sameFold dn base = false :=
    Bool.eq_false_iff.2 fun same => part (relativeTo_of_sameFold named same)
  cases found : above? dn.toList base.toList with
  | none => exact absurd (by simp [relativeTo, longer, found]) other
  | some chars =>
      obtain ⟨some, below⟩ := above?_toList_eq_some_iff.1 found
      rwa [relativeTo_of_below named (mt String.ofList_eq_empty_iff.1 some) below]

/-! ## The cut -/

/-- The base itself is answered as the empty name.  A comma and the base at the end of a longer
name are cut off it, and what is left and the base denote the name just when that comma is not
escaped; nothing else is cut off any name.  So of the entries that a search finds, the ones whose
name, a comma and the base denote their full name are those whose name escapes nothing. -/
theorem relativeTo_cut (dn base : String) :
    (base ≠ "" →
      (sameFold dn base = true → relativeTo dn base = "") ∧
      (∀ rdns, rdns ≠ "" → Below dn rdns base → relativeTo dn base = rdns ∧
        (Denotes rdns base dn ↔ escapes rdns.toList = false)) ∧
      (sameFold dn base = false → (∀ rdns, rdns ≠ "" → ¬ Below dn rdns base) →
        relativeTo dn base = dn)) ∧
    ∀ entry : SearchEntry, (entry.result base).name ≠ (entry.result base).fullName →
      (entry.result base).name ≠ "" →
      (Denotes (entry.result base).name base (entry.result base).fullName ↔
        escapes (entry.result base).name.toList = false) :=
  ⟨fun named => ⟨relativeTo_of_sameFold named,
    fun _ part below => ⟨relativeTo_of_below named part below, denotes_iff below⟩,
    relativeTo_of_not_below⟩,
    fun _ other part => denotes_iff (below_of_relativeTo part other)⟩

/-- Four entries as seen from `dc=x`: the base in capitals, one below it whose value has an escaped
comma, one that only ends like it, and the second as a search answers it. -/
theorem relativeTo_cut_seen_from_base :
    relativeTo "DC=X" "dc=x" = "" ∧
      (relativeTo "cn=a\\,b,DC=X" "dc=x" = "cn=a\\,b" ∧
        Denotes "cn=a\\,b" "dc=x" "cn=a\\,b,DC=X") ∧
      relativeTo "cn=adc=x" "dc=x" = "cn=adc=x" ∧
      Denotes ((SearchEntry.mk "cn=a\\,b,DC=X" [] []).result "dc=x").name "dc=x"
        "cn=a\\,b,DC=X" := by
  refine ⟨((relativeTo_cut _ _).1 (by decide)).1 (by decide), ?_,
    ((relativeTo_cut _ _).1 (by decide)).2.2 (by decide) ?_,
    ((relativeTo_cut "" _).2 ⟨"cn=a\\,b,DC=X", [], []⟩ (by decide) (by decide)).2 (by decide)⟩
  · have below : Below "cn=a\\,b,DC=X" "cn=a\\,b" "dc=x" := ⟨"DC=X", by decide, by decide⟩
    have cut := ((relativeTo_cut _ _).1 (by decide)).2.1 _ (by decide) below
    exact ⟨cut.1, cut.2.2 (by decide)⟩
  · intro rdns _ below
    obtain ⟨tail, spelt, -⟩ := below
    have comma : ',' ∈ "cn=adc=x".toList := by
      rw [spelt, toList_comma]
      exact List.mem_append_right _ List.mem_cons_self
    exact absurd comma (by decide)

/-- One component whose value is `a,dc=x`, and nothing below `dc=x`, loses the end of its value. -/
theorem relativeTo_cuts_value :
    components "cn=a\\,dc=x".toList = ["cn=a\\,dc=x".toList] ∧
      relativeTo "cn=a\\,dc=x" "dc=x" = "cn=a\\" ∧
      ¬ Denotes "cn=a\\" "dc=x" "cn=a\\,dc=x" := by
  refine ⟨by decide, by decide, ?_⟩
  rw [Denotes]
  decide

end ManagedLdap.Name
