/-
# ManagedLdap.Proofs.Name.Composition -- how names compose

`compose` has three cases, by which of its names are blank (`compose_blank`, `compose_root`,
`compose_below`).  It trims what it is given and answers a trimmed name, so that a name that was
composed can be composed on: composing is associative (`compose_assoc`), and a blank name adds
nothing to either side.

`relativeTo` is its inverse.  Whatever stands below a trimmed base comes back out of its full
name as it was put in (`relativeTo_compose`), the base itself as the empty name.
-/
import ManagedLdap.Name
import ManagedLdap.Proofs.Text.Trim

namespace ManagedLdap.Name

set_option autoImplicit false

open Text (trim)

variable {name parent : String}

/-! ## The three cases -/

theorem toList_comma (front back : String) :
    (front ++ "," ++ back).toList = front.toList ++ ',' :: back.toList := by
  simp only [String.toList_append, List.append_assoc]
  rfl

/-- A blank name is the parent itself. -/
theorem compose_blank (blank : trim name = "") (parent : String) :
    compose name parent = trim parent := by
  simp [compose, blank]

/-- Below a blank parent a name is alone. -/
theorem compose_root (name : String) (root : trim parent = "") :
    compose name parent = trim name := by
  by_cases blank : trim name = ""
  · rw [compose_blank blank, root, blank]
  · simp [compose, blank, root]

theorem compose_below (named : trim name ≠ "") (below : trim parent ≠ "") :
    compose name parent = trim name ++ "," ++ trim parent := by
  simp [compose, named, below]

/-! ## Trimming -/

theorem compose_trim_left (name parent : String) :
    compose (trim name) parent = compose name parent := by
  rw [compose, Text.trim_trim, ← compose]

theorem compose_trim_right (name parent : String) :
    compose name (trim parent) = compose name parent := by
  rw [compose, Text.trim_trim, ← compose]

/-- A name that was composed is trimmed. -/
theorem trim_compose (name parent : String) : trim (compose name parent) = compose name parent := by
  by_cases blank : trim name = ""
  · rw [compose_blank blank, Text.trim_trim]
  · by_cases root : trim parent = ""
    · rw [compose_root name root, Text.trim_trim]
    · rw [compose_below blank root]
      refine Text.Trimmed.trim_eq ?_
      rw [String.toList_append, String.toList_append]
      exact (Text.trimmed_trim name).join (Text.trimmed_trim parent) _
        (mt String.toList_eq_nil_iff.1 blank) (mt String.toList_eq_nil_iff.1 root)

/-- What is below something is not blank. -/
theorem compose_ne_empty (below : trim parent ≠ "") (name : String) : compose name parent ≠ "" := by
  by_cases blank : trim name = ""
  · rwa [compose_blank blank]
  · rw [compose_below blank below]
    intro empty
    simp at empty

/-! ## Associativity -/

/-- A name below a name below a base is one name below the base. -/
theorem compose_assoc (outer inner base : String) :
    compose outer (compose inner base) = compose (compose outer inner) base := by
  by_cases none : trim inner = ""
  · rw [compose_blank none, compose_root outer none, compose_trim_right, compose_trim_left]
  by_cases blank : trim outer = ""
  · rw [compose_blank blank, compose_blank blank, compose_trim_left, trim_compose]
  by_cases root : trim base = ""
  · rw [compose_root inner root, compose_root _ root, compose_trim_right, trim_compose]
  have lower : trim (compose inner base) ≠ "" := by
    rw [trim_compose]
    exact compose_ne_empty root inner
  have upper : trim (compose outer inner) ≠ "" := by
    rw [trim_compose]
    exact compose_ne_empty none outer
  rw [compose_below blank lower, compose_below upper root, trim_compose, trim_compose,
    compose_below none root, compose_below blank none]
  simp only [String.append_assoc]

/-! ## Taking names apart again -/

/-- What is cut off a full name is a comma and a tail that is the base up to letter case, and
something stands before them. -/
theorem above?_eq_some_iff {dn base rdns : List Char} :
    above? dn base = some rdns ↔
      rdns ≠ [] ∧ ∃ tail, dn = rdns ++ ',' :: tail ∧
        tail.map Char.toLower = base.map Char.toLower := by
  unfold above?
  dsimp only
  constructor
  · intro found
    split at found
    · next same =>
        split at found
        · next c rest reversed =>
            cases found
            have front : dn.take (dn.length - base.length) = (c :: rest).reverse ++ [','] := by
              rw [← List.reverse_cons, ← reversed, List.reverse_reverse]
            have parts := List.take_append_drop (dn.length - base.length) dn
            rw [front, List.append_assoc] at parts
            exact ⟨mt List.reverse_eq_nil_iff.1 (List.cons_ne_nil c rest), _, parts.symm, same⟩
        · cases found
    · cases found
  · rintro ⟨named, tail, rfl, same⟩
    have sizes : tail.length = base.length := by simpa using congrArg List.length same
    have cut : (rdns ++ ',' :: tail).length - base.length = (rdns ++ [',']).length := by
      simp only [List.length_append, List.length_cons, List.length_nil]
      omega
    have whole : rdns ++ ',' :: tail = (rdns ++ [',']) ++ tail := by simp
    obtain ⟨c, rest, reversed⟩ := List.exists_cons_of_ne_nil (mt List.reverse_eq_nil_iff.1 named)
    rw [cut, whole, List.drop_left, List.take_left, if_pos same, List.reverse_append, reversed]
    simp only [List.reverse_cons, List.reverse_nil, List.nil_append, List.cons_append]
    rw [← List.reverse_cons, ← reversed, List.reverse_reverse]

/-- A name that is composed with a trimmed base is recovered from its full form. -/
theorem relativeTo_compose (name : String) {base : String} (trimmed : trim base = base) :
    relativeTo (compose name base) base = trim name := by
  by_cases root : base = ""
  · subst root
    rw [compose_root name rfl]
    rfl
  have below : trim base ≠ "" := by rwa [trimmed]
  by_cases blank : trim name = ""
  · rw [compose_blank blank, trimmed, blank]
    simp [relativeTo, root, Text.sameFold_refl]
  have longer : Text.sameFold (trim name ++ "," ++ base) base = false := by
    refine Bool.eq_false_iff.2 fun same => ?_
    have lengths := congrArg List.length (beq_iff_eq.1 same)
    simp only [List.length_map, String.toList_append, List.length_append] at lengths
    have : ",".toList.length = 1 := rfl
    omega
  have found : above? (trim name ++ "," ++ base).toList base.toList = some (trim name).toList := by
    rw [toList_comma]
    exact above?_eq_some_iff.2 ⟨mt String.toList_eq_nil_iff.1 blank, _, rfl, rfl⟩
  rw [compose_below blank below, trimmed, relativeTo, longer, found]
  simp only [String.isEmpty_iff, root, Bool.false_eq_true, if_false, String.ofList_toList]

end ManagedLdap.Name
