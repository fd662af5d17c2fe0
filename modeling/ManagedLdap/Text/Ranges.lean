/-
# ManagedLdap.Text.Ranges -- properties of characters as tables of ranges

A property of characters is given by closed ranges of code points: a set by the ranges
alone, a classification by ranges with a class.  Ranges of one table do not overlap, so the
first one that holds a character is the only one.
-/
namespace ManagedLdap.Text

set_option autoImplicit false

/-- A set of characters. -/
abbrev Ranges := List (Nat × Nat)

/-- Whether a set holds a character. -/
def Ranges.has (ranges : Ranges) (c : Char) : Bool :=
  ranges.any fun (first, last) => first ≤ c.toNat && c.toNat ≤ last

/-- Classes of characters: the first and the last character of a range and their class. -/
abbrev ClassTable (α : Type) := List (Nat × Nat × α)

namespace ClassTable

variable {α : Type}

/-- The row of a character. -/
def row? (table : ClassTable α) (c : Char) : Option (Nat × Nat × α) :=
  List.find? (fun (first, last, _) => first ≤ c.toNat && c.toNat ≤ last) table

/-- The class of a character; none when the table does not list it. -/
def class? (table : ClassTable α) (c : Char) : Option α :=
  (table.row? c).map fun (_, _, value) => value

end ClassTable

end ManagedLdap.Text
