/-
# ManagedLdap.Text.Split -- the parts of a text between separators

A separator always stands between two parts, so there is one part more than there are
separators, and parts may be empty.
-/
namespace ManagedLdap.Text

set_option autoImplicit false

/-- Parts between separators. -/
def splitOn (separator : Char) : List Char → List (List Char)
  | [] => [[]]
  | c :: cs =>
      if c = separator then [] :: splitOn separator cs
      else
        match splitOn separator cs with
        | [] => [[c]]
        | part :: parts => (c :: part) :: parts

/-- No text is without parts. -/
theorem splitOn_ne_nil (separator : Char) (cs : List Char) : splitOn separator cs ≠ [] := by
  cases cs with
  | nil => simp [splitOn]
  | cons c cs =>
    rw [splitOn]
    split
    · simp
    · split <;> simp

/-- A text without the separator is one part. -/
theorem splitOn_of_notMem {separator : Char} {cs : List Char} (absent : separator ∉ cs) :
    splitOn separator cs = [cs] := by
  induction cs with
  | nil => rfl
  | cons c cs ih =>
    obtain ⟨other, further⟩ := List.ne_and_not_mem_of_not_mem_cons absent
    rw [splitOn, if_neg (Ne.symm other), ih further]

/-- The first separator ends the first part. -/
theorem splitOn_append {separator : Char} {part : List Char} (absent : separator ∉ part)
    (rest : List Char) :
    splitOn separator (part ++ separator :: rest) = part :: splitOn separator rest := by
  induction part with
  | nil => rw [List.nil_append, splitOn, if_pos rfl]
  | cons c part ih =>
    obtain ⟨other, further⟩ := List.ne_and_not_mem_of_not_mem_cons absent
    rw [List.cons_append, splitOn, if_neg (Ne.symm other), ih further]

end ManagedLdap.Text
