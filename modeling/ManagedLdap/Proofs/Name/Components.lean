/-
# ManagedLdap.Proofs.Name.Components -- the components of a name

A comma parts two components of a name unless a backslash escapes it, and a backslash that is
itself escaped escapes nothing: what counts is whether the run of backslashes before the comma is
odd (`escapes`).  `components` are the parts between the commas that are not escaped, and
`parentOf` is what is left of a name without the first of them.

`RdnText` is the text of one component, by the characters it is made of.  It is what stands before
the first comma that counts, so `splitComma` finds that comma behind such a text
(`RdnText.splitComma_eq`) and nowhere else (`rdnText_of_splitComma`).  `components_comma` says how
a name that is put together falls apart again: where the comma counts, into the components of both
sides; where it does not, there is one component less (`length_components_comma`).
-/
import ManagedLdap.Name

namespace ManagedLdap

set_option autoImplicit false

/-! ## Letter case -/

namespace Text

/-- The lower case of a letter is 32 places above it. -/
theorem toNat_toLower (c : Char) :
    c.toLower.toNat = if 65 ≤ c.toNat ∧ c.toNat ≤ 90 then c.toNat + 32 else c.toNat := by
  have bounds : (c.val ≥ 'A'.val ∧ c.val ≤ 'Z'.val) ↔ (65 ≤ c.toNat ∧ c.toNat ≤ 90) := Iff.rfl
  have distance : ('a'.val - 'A'.val).toNat = 32 := rfl
  unfold Char.toLower
  split
  · next upper =>
      rw [if_pos (bounds.1 upper)]
      change (c.val + _).toNat = c.val.toNat + 32
      have high : c.val.toNat ≤ 90 := upper.2
      rw [UInt32.toNat_add, distance]
      omega
  · next other => rw [if_neg (mt bounds.2 other)]

/-- A character that is no letter is the lower case of itself alone. -/
theorem toLower_eq_iff {d : Char} (other : d.toNat < 65 ∨ 90 < d.toNat ∧ d.toNat < 97) (c : Char) :
    c.toLower = d ↔ c = d := by
  rw [← Char.toNat_inj, ← Char.toNat_inj, toNat_toLower]
  split <;> omega

end Text

namespace Name

/-! ## Escapes -/

/-- Whether a text escapes what comes after it: it ends in an odd run of backslashes. -/
def escapes (cs : List Char) : Bool := (cs.reverse.takeWhile (· == '\\')).length % 2 == 1

/-- Whether the next character is escaped after these, if the first of them is escaped or not. -/
def escapedAfter (escaped : Bool) (cs : List Char) : Bool :=
  cs.foldl (fun escaped c => c == '\\' && !escaped) escaped

theorem escapedAfter_cons (escaped : Bool) (c : Char) (cs : List Char) :
    escapedAfter escaped (c :: cs) = escapedAfter (c == '\\' && !escaped) cs := rfl

theorem escapedAfter_append (escaped : Bool) (cs ds : List Char) :
    escapedAfter escaped (cs ++ ds) = escapedAfter (escapedAfter escaped cs) ds := List.foldl_append

/-- Reading a text from its start comes to the parity of the run at its end. -/
theorem escapedAfter_false (cs : List Char) : escapedAfter false cs = escapes cs := by
  have parity (ds : List Char) : ds.foldr (fun c escaped => c == '\\' && !escaped) false =
      ((ds.takeWhile (· == '\\')).length % 2 == 1) := by
    induction ds with
    | nil => rfl
    | cons d ds ih =>
        rw [List.foldr_cons, ih, List.takeWhile_cons]
        cases d == '\\' with
        | false => rfl
        | true =>
            rw [Bool.eq_iff_iff]
            simp only [Bool.true_and, Bool.not_eq_true', beq_eq_false_iff_ne, beq_iff_eq, if_true,
              List.length_cons]
            omega
  rw [escapes, ← parity, List.foldr_reverse]
  rfl

/-! ## Components -/

/-- The parts of a text between its commas that are not escaped; `escaped` when a backslash stands
before the first character. -/
def componentsFrom : Bool → List Char → List (List Char)
  | _, [] => [[]]
  | escaped, c :: cs =>
      if c = ',' ∧ escaped = false then [] :: componentsFrom false cs
      else (componentsFrom (c == '\\' && !escaped) cs).modifyHead (c :: ·)

/-- The components of a name. -/
def components (cs : List Char) : List (List Char) := componentsFrom false cs

/-- What a name is below: all components but the first. -/
def parentOf (cs : List Char) : List Char := [','].intercalate (components cs).tail

theorem componentsFrom_ne_nil (escaped : Bool) (cs : List Char) :
    componentsFrom escaped cs ≠ [] := by
  induction cs generalizing escaped with
  | nil => exact List.cons_ne_nil _ _
  | cons c cs ih =>
      unfold componentsFrom
      split
      · exact List.cons_ne_nil _ _
      · rw [Ne, List.modifyHead_eq_nil_iff]
        exact ih _

/-- The components of a name, with commas between them, are the name. -/
theorem intercalate_componentsFrom (escaped : Bool) (cs : List Char) :
    [','].intercalate (componentsFrom escaped cs) = cs := by
  induction cs generalizing escaped with
  | nil => rfl
  | cons c cs ih =>
      unfold componentsFrom
      split
      · next comma =>
          rw [List.intercalate_cons_of_ne_nil (componentsFrom_ne_nil false cs), ih, comma.1]
          rfl
      · have rest := ih (c == '\\' && !escaped)
        obtain ⟨first, others, parts⟩ :=
          List.exists_cons_of_ne_nil (componentsFrom_ne_nil (c == '\\' && !escaped) cs)
        rw [parts] at rest ⊢
        rw [List.modifyHead_cons]
        cases others with
        | nil =>
            rw [List.intercalate_singleton] at rest ⊢
            rw [rest]
        | cons second others =>
            rw [List.intercalate_cons_cons] at rest ⊢
            rw [List.cons_append, List.cons_append, rest]

/-- Letter case has no part in where a name falls apart. -/
theorem componentsFrom_lower (escaped : Bool) (cs : List Char) :
    componentsFrom escaped (cs.map Char.toLower) =
      (componentsFrom escaped cs).map (List.map Char.toLower) := by
  induction cs generalizing escaped with
  | nil => rfl
  | cons c cs ih =>
      have comma : c.toLower = ',' ↔ c = ',' := Text.toLower_eq_iff (.inl (by decide)) c
      have backslash : (c.toLower == '\\') = (c == '\\') := by
        rw [Bool.eq_iff_iff, beq_iff_eq, beq_iff_eq]
        exact Text.toLower_eq_iff (.inr (by decide)) c
      rw [List.map_cons]
      unfold componentsFrom
      simp only [comma, backslash, ih]
      split
      · rfl
      · obtain ⟨first, others, parts⟩ :=
          List.exists_cons_of_ne_nil (componentsFrom_ne_nil (c == '\\' && !escaped) cs)
        rw [parts]
        rfl

/-- A comma that counts parts the components before it from those behind it. -/
theorem componentsFrom_comma {escaped : Bool} {front : List Char}
    (counts : escapedAfter escaped front = false) (back : List Char) :
    componentsFrom escaped (front ++ ',' :: back) =
      componentsFrom escaped front ++ components back := by
  -- Whether the comma counts is known from the end of `front`, and is carried to its start.
  induction front generalizing escaped with
  | nil =>
      obtain rfl : escaped = false := counts
      rfl
  | cons c front ih =>
      rw [List.cons_append]
      unfold componentsFrom
      split
      · next comma =>
          obtain ⟨rfl, rfl⟩ := comma
          have after : escapedAfter false front = false := counts
          rw [ih after]
          rfl
      · obtain ⟨first, others, parts⟩ :=
          List.exists_cons_of_ne_nil (componentsFrom_ne_nil (c == '\\' && !escaped) front)
        rw [ih counts, parts]
        rfl

/-- A comma that does not count joins the component before it and the one behind it. -/
theorem length_componentsFrom_comma {escaped : Bool} {front : List Char}
    (counts_not : escapedAfter escaped front = true) (back : List Char) :
    (componentsFrom escaped (front ++ ',' :: back)).length + 1 =
      (componentsFrom escaped front).length + (components back).length := by
  induction front generalizing escaped with
  | nil =>
      obtain rfl : escaped = true := counts_not
      simp only [List.nil_append, componentsFrom, components, Bool.true_eq_false, and_false,
        if_false, List.length_modifyHead, List.length_cons, List.length_nil]
      exact Nat.add_comm _ 1
  | cons c front ih =>
      rw [List.cons_append]
      unfold componentsFrom
      split
      · next comma =>
          obtain ⟨rfl, rfl⟩ := comma
          have joined := @ih false counts_not
          simp only [List.length_cons]
          omega
      · simp only [List.length_modifyHead]
        exact ih counts_not

theorem components_comma {front : List Char} (counts : escapes front = false) (back : List Char) :
    components (front ++ ',' :: back) = components front ++ components back :=
  componentsFrom_comma ((escapedAfter_false front).trans counts) back

theorem length_components_comma {front : List Char} (counts_not : escapes front = true)
    (back : List Char) : (components (front ++ ',' :: back)).length + 1 =
      (components front).length + (components back).length :=
  length_componentsFrom_comma ((escapedAfter_false front).trans counts_not) back

/-! ## One component -/

/-- The text of one component: a backslash stands before the character that it escapes, and no
comma stands by itself. -/
inductive RdnText : List Char → Prop
  | nil : RdnText []
  | plain {c : Char} {cs : List Char} (solid : c ≠ '\\') (inside : c ≠ ',') (rest : RdnText cs) :
      RdnText (c :: cs)
  | escape (c : Char) {cs : List Char} (rest : RdnText cs) : RdnText ('\\' :: c :: cs)

namespace RdnText

variable {rdn cs : List Char}

theorem append (front : RdnText rdn) (back : RdnText cs) : RdnText (rdn ++ cs) := by
  induction front with
  | nil => exact back
  | plain solid inside _ ih => exact .plain solid inside ih
  | escape c _ ih => exact .escape c ih

/-- Nothing is left to be escaped at the end of a component. -/
theorem escapedAfter_eq (text : RdnText rdn) : escapedAfter false rdn = false := by
  induction text with
  | nil => rfl
  | plain solid _ _ ih =>
      rw [escapedAfter_cons, beq_eq_false_iff_ne.2 solid]
      exact ih
  | escape c _ ih =>
      rw [escapedAfter_cons, escapedAfter_cons]
      simpa using ih

theorem escapes_eq (text : RdnText rdn) : escapes rdn = false :=
  (escapedAfter_false rdn).symm.trans text.escapedAfter_eq

/-- A backslash behind a component escapes what comes next. -/
theorem escapes_backslash (text : RdnText rdn) : escapes (rdn ++ ['\\']) = true := by
  rw [← escapedAfter_false, escapedAfter_append, text.escapedAfter_eq]
  rfl

theorem components_eq (text : RdnText rdn) : components rdn = [rdn] := by
  unfold components
  induction text with
  | nil => rfl
  | plain solid inside _ ih =>
      simp [componentsFrom, inside, beq_eq_false_iff_ne.2 solid, ih]
  | escape c _ ih => simp [componentsFrom, ih]

/-- A component is passed over in search of a comma. -/
theorem splitComma_append (text : RdnText rdn) (rest : List Char) :
    splitComma false (rdn ++ rest) =
      (splitComma false rest).map fun parts => (rdn ++ parts.1, parts.2) := by
  induction text with
  | nil => exact Option.map_id'.symm
  | plain solid inside _ ih =>
      simp [splitComma, inside, beq_eq_false_iff_ne.2 solid, ih, Function.comp_def]
  | escape c _ ih => simp [splitComma, ih, Function.comp_def]

theorem splitComma_eq (text : RdnText rdn) (parent : List Char) :
    splitComma false (rdn ++ ',' :: parent) = some (rdn, parent) := by
  simp [text.splitComma_append, splitComma]

/-- What a component stands before is what it is below. -/
theorem parentOf_eq (text : RdnText rdn) (parent : List Char) :
    parentOf (rdn ++ ',' :: parent) = parent := by
  rw [parentOf, components_comma text.escapes_eq, text.components_eq]
  exact intercalate_componentsFrom false parent

end RdnText

/-! ## The first comma -/

/-- A comma that is found stands behind the text of one component.  A backslash before the first
character belongs to that component. -/
theorem rdnText_of_splitComma {escaped : Bool} {cs rdn parent : List Char}
    (found : splitComma escaped cs = some (rdn, parent)) :
    cs = rdn ++ ',' :: parent ∧ RdnText ((if escaped then ['\\'] else []) ++ rdn) := by
  induction cs generalizing escaped rdn with
  | nil => cases found
  | cons c cs ih =>
      unfold splitComma at found
      split at found
      · next comma =>
          obtain ⟨rfl, rfl⟩ := comma
          cases found
          exact ⟨rfl, .nil⟩
      · next other =>
          obtain ⟨⟨before, after⟩, later, same⟩ := Option.map_eq_some_iff.1 found
          cases same
          obtain ⟨rfl, text⟩ := ih later
          refine ⟨rfl, ?_⟩
          cases escaped with
          | true =>
              rw [Bool.not_true, Bool.and_false] at text
              exact .escape c text
          | false =>
              by_cases backslash : c = '\\'
              · subst backslash
                exact text
              · rw [beq_eq_false_iff_ne.2 backslash, Bool.false_and] at text
                exact .plain backslash (fun comma => other ⟨comma, rfl⟩) text

/-- Where none is found, a name has one component. -/
theorem componentsFrom_of_splitComma {escaped : Bool} {cs : List Char}
    (none_found : splitComma escaped cs = none) : componentsFrom escaped cs = [cs] := by
  induction cs generalizing escaped with
  | nil => rfl
  | cons c cs ih =>
      unfold splitComma at none_found
      unfold componentsFrom
      split at none_found
      · cases none_found
      · next other =>
          rw [if_neg other, ih (Option.map_eq_none_iff.1 none_found)]
          rfl

end Name

end ManagedLdap
