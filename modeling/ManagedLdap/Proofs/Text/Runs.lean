/-
# ManagedLdap.Proofs.Text.Runs -- reading characters as long as they are of one kind

A reader that takes a run of characters takes the longest there is.  Where a run ends is therefore
up to what follows it: `Stops` says that this does not go on with characters of the kind.
-/

namespace ManagedLdap.Text

set_option autoImplicit false

variable {p q : Char → Bool} {rest : List Char}

/-- What follows does not go on with characters that `p` accepts. -/
def Stops (p : Char → Bool) (rest : List Char) : Prop := ∀ c ∈ rest.head?, p c = false

theorem stops_nil : Stops p [] := nofun

theorem stops_cons {c : Char} : Stops p (c :: rest) ↔ p c = false := by
  simp [Stops]

theorem Stops.mono (stops : Stops q rest) (fewer : ∀ c, p c = true → q c = true) :
    Stops p rest := by
  intro c within
  rw [← Bool.not_eq_true]
  intro accepted
  exact absurd (fewer c accepted) (Bool.not_eq_true _ ▸ stops c within)

/-- Parts that each start with one character are followed by that character or by what follows
them all. -/
theorem Stops.flatMap_cons {c : Char} {parts : List (List Char)} (separates : p c = false)
    (stops : Stops p rest) : Stops p (parts.flatMap (c :: ·) ++ rest) := by
  cases parts with
  | nil => exact stops
  | cons part parts => exact stops_cons.2 separates

/-- A run of characters is read to its end. -/
theorem takeWhile_dropWhile_append {run : List Char} (all : ∀ c ∈ run, p c = true)
    (stops : Stops p rest) :
    (run ++ rest).takeWhile p = run ∧ (run ++ rest).dropWhile p = rest := by
  have bare : rest.takeWhile p = [] ∧ rest.dropWhile p = rest := by
    cases rest with
    | nil => exact ⟨rfl, rfl⟩
    | cons c rest => simp [stops_cons.1 stops]
  rw [List.takeWhile_append_of_pos all, List.dropWhile_append_of_pos all, bare.1, bare.2,
    List.append_nil]
  exact ⟨rfl, rfl⟩

end ManagedLdap.Text
