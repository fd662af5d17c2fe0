/-
# ManagedLdap.Proofs.Text.Trim -- what trimming leaves

A text is `Trimmed` when no blank character stands at either end of it.  Trimming leaves a trimmed
text (`trimmed_trim`) and changes nothing of one (`Trimmed.trim_eq`), so it is done once and for
all (`trim_trim`).  Trimmed texts that are not empty stay trimmed when they are joined, whatever
is put between them (`Trimmed.join`).
-/
import ManagedLdap.Text.Blank

namespace ManagedLdap.Text

set_option autoImplicit false

/-! ## The end -/

theorem trimRightChars_prefix (cs : List Char) : trimRightChars cs <+: cs := by
  induction cs with
  | nil => exact List.prefix_rfl
  | cons c cs ih =>
      unfold trimRightChars
      split
      · split
        · exact List.nil_prefix
        · exact List.cons_prefix_cons.2 ⟨rfl, List.nil_prefix⟩
      · next d ds kept =>
          rw [kept] at ih
          exact List.cons_prefix_cons.2 ⟨rfl, ih⟩

theorem last_trimRightChars (cs : List Char) :
    ∀ c ∈ (trimRightChars cs).getLast?, isBlank c = false := by
  induction cs with
  | nil => exact fun _ none => by cases none
  | cons c cs ih =>
      unfold trimRightChars
      split
      · split
        · exact fun _ none => by cases none
        · next solid =>
            intro last found
            obtain rfl := Option.some.inj found
            exact Bool.eq_false_iff.2 solid
      · next d ds kept =>
          rw [List.getLast?_cons_cons, ← kept]
          exact ih

theorem trimRightChars_cons (c : Char) (cs : List Char) :
    trimRightChars (c :: cs) =
      if trimRightChars cs = [] ∧ isBlank c = true then [] else c :: trimRightChars cs := by
  rw [trimRightChars]
  split
  · next cut => simp only [cut, true_and]
  · next d ds kept => rw [if_neg (fun both => by simp [kept] at both), kept]

/-- What stands behind a character that is not blank is trimmed as if it stood alone. -/
theorem trimRightChars_append {front : List Char}
    (solid : ∀ c ∈ front.getLast?, isBlank c = false) (cs : List Char) :
    trimRightChars (front ++ cs) = front ++ trimRightChars cs := by
  induction front with
  | nil => rfl
  | cons c front ih =>
      rw [List.cons_append, trimRightChars_cons]
      cases front with
      | nil =>
          have : isBlank c = false := solid c rfl
          simp [this]
      | cons d ds =>
          rw [List.getLast?_cons_cons] at solid
          rw [ih solid, if_neg (fun both => List.cons_ne_nil _ _ both.1)]
          rfl

theorem trimRightChars_eq {cs : List Char} (solid : ∀ c ∈ cs.getLast?, isBlank c = false) :
    trimRightChars cs = cs := by
  simpa [trimRightChars] using trimRightChars_append solid []

/-! ## The start -/

theorem dropWhile_isBlank_eq {cs : List Char} (solid : ∀ c ∈ cs.head?, isBlank c = false) :
    cs.dropWhile isBlank = cs := by
  cases cs with
  | nil => rfl
  | cons c cs => simp only [List.dropWhile_cons, solid c rfl, Bool.false_eq_true, if_false]

/-! ## Both ends -/

/-- No blank character stands at either end. -/
structure Trimmed (cs : List Char) : Prop where
  start : ∀ c ∈ cs.head?, isBlank c = false
  finish : ∀ c ∈ cs.getLast?, isBlank c = false

theorem trimmed_trimChars (cs : List Char) : Trimmed (trimChars cs) := by
  refine ⟨fun c found => ?_, last_trimRightChars _⟩
  obtain ⟨cut, whole⟩ := trimRightChars_prefix (cs.dropWhile isBlank)
  have first : (cs.dropWhile isBlank).head? = some c := by
    rw [← whole, List.head?_append, ← trimChars, Option.mem_def.1 found]
    rfl
  have solid := List.head?_dropWhile_not isBlank cs
  rw [first] at solid
  exact solid

namespace Trimmed

variable {cs ds : List Char}

theorem trimChars_eq (trimmed : Trimmed cs) : trimChars cs = cs := by
  rw [trimChars, dropWhile_isBlank_eq trimmed.start, trimRightChars_eq trimmed.finish]

/-- What is put behind a trimmed text is trimmed as if it stood alone, if it starts with no blank
character. -/
theorem trimChars_append (front : Trimmed cs) (some : cs ≠ [])
    (start : ∀ c ∈ ds.head?, isBlank c = false) : trimChars (cs ++ ds) = cs ++ trimChars ds := by
  have first : ∀ c ∈ (cs ++ ds).head?, isBlank c = false := by
    obtain ⟨c, cs, rfl⟩ := List.exists_cons_of_ne_nil some
    exact front.start
  rw [trimChars, trimChars, dropWhile_isBlank_eq first, dropWhile_isBlank_eq start,
    trimRightChars_append front.finish]

/-- Nothing blank stands at the start of the front part of a trimmed text, -/
theorem front (trimmed : Trimmed (cs ++ ds)) : ∀ c ∈ cs.head?, isBlank c = false := by
  intro c first
  refine trimmed.start c ?_
  rw [List.head?_append, Option.mem_def.1 first]
  rfl

/-- nor at the end of the back part. -/
theorem back (trimmed : Trimmed (cs ++ ds)) : ∀ c ∈ ds.getLast?, isBlank c = false := by
  intro c last
  refine trimmed.finish c ?_
  rw [List.getLast?_append, Option.mem_def.1 last]
  rfl

/-- What is put between two trimmed texts is not at an end. -/
theorem join (front : Trimmed cs) (back : Trimmed ds) (between : List Char) (some₁ : cs ≠ [])
    (some₂ : ds ≠ []) : Trimmed (cs ++ between ++ ds) := by
  refine ⟨fun c found => front.start c ?_, fun c found => back.finish c ?_⟩
  · obtain ⟨d, first⟩ := Option.ne_none_iff_exists'.1 (mt List.head?_eq_none_iff.1 some₁)
    rw [List.append_assoc, List.head?_append, first] at found
    rw [first]
    exact found
  · obtain ⟨d, last⟩ := Option.ne_none_iff_exists'.1 (mt List.getLast?_eq_none_iff.1 some₂)
    rw [List.getLast?_append, last] at found
    rw [last]
    exact found

end Trimmed

/-! ## Texts -/

@[simp] theorem toList_trim (s : String) : (trim s).toList = trimChars s.toList :=
  String.toList_ofList

theorem trimmed_trim (s : String) : Trimmed (trim s).toList := by
  rw [toList_trim]
  exact trimmed_trimChars _

theorem Trimmed.trim_eq {s : String} (trimmed : Trimmed s.toList) : trim s = s := by
  rw [trim, trimmed.trimChars_eq, String.ofList_toList]

@[simp] theorem trim_trim (s : String) : trim (trim s) = trim s := (trimmed_trim s).trim_eq

end ManagedLdap.Text
