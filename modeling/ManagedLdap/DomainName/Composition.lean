/-
# ManagedLdap.DomainName.Composition -- the one way to write a text

Texts that differ in the order of marks, or in whether a letter and its mark are one
character or two, look alike.  `composed` chooses one of them: it takes every character
apart, sorts the marks between two other characters by class, and makes composites from
left to right (normalization form C for the characters of domain names).
-/
import ManagedLdap.DomainName.CombiningClass
import ManagedLdap.DomainName.Composite

namespace ManagedLdap.DomainName

set_option autoImplicit false

/-! ## The order of marks -/

/-- Put a character before characters in order: a mark moves behind the marks of lower
classes. -/
def placeMark (c : Char) : List Char → List Char
  | [] => [c]
  | d :: ds =>
      if 0 < combiningClass d ∧ combiningClass d < combiningClass c then d :: placeMark c ds
      else c :: d :: ds

/-- Characters with the marks on each of them in the order of their classes; marks of one
class keep their order. -/
def orderMarks (cs : List Char) : List Char := cs.foldr placeMark []

/-! ## Composing -/

/-- Compose what follows the character `base`, where `waiting` are the marks since then that
did not become a part of it, the last one first.  A character reaches the base only past
marks of lower classes. -/
def composeOnto (base : Char) (waiting : List Char) : List Char → List Char
  | [] => base :: waiting.reverse
  | c :: cs =>
      let reaches := match waiting with
        | [] => true
        | mark :: _ => decide (combiningClass mark < combiningClass c)
      match if reaches then composite? base c else none with
      | some composite => composeOnto composite waiting cs
      | none =>
          if combiningClass c = 0 then base :: waiting.reverse ++ composeOnto c [] cs
          else composeOnto base (c :: waiting) cs

/-- Compose ordered characters; marks at the start have no base. -/
def compose : List Char → List Char
  | [] => []
  | c :: cs => if combiningClass c = 0 then composeOnto c [] cs else c :: compose cs

/-- The composed form of a text. -/
def composed (cs : List Char) : List Char := compose (orderMarks (cs.flatMap parts))

end ManagedLdap.DomainName
