/-
# ManagedLdap.Proofs.Schema.Grammar -- the definitions of object classes

A schema defines an object class by a text in parentheses: its identifier, and then fields, each of
which may be left out, but which come in one order.  This module states the grammar of RFC 4512
(section 4.1.1) as languages, field by field, for a class with a numeric identifier.  Keywords may
be in any letter case, as in every grammar of that kind.

The grammar has two parameters.  What the NAME field is, and what it declares, is the first one.
The second one says which words may be used where an author is free: the descriptors of other
classes and of attributes, the names of extensions, and all that stands between quotes.  Everything
else is keywords and punctuation.
-/
import Mathlib.Computability.Language
import ManagedLdap.Proofs.Filter.Reading

namespace ManagedLdap.Schema

set_option autoImplicit false

open scoped Computability

/-! ## Words -/

/-- The texts with a property. -/
def words (p : List Char → Prop) : Language Char := { cs : List Char | p cs }

theorem mem_words {p : List Char → Prop} {cs : List Char} : cs ∈ words p ↔ p cs := Iff.rfl

/-- A single character. -/
def sign (c : Char) : Language Char := {[c]}

/-- A part that may be left out. -/
def optional (part : Language Char) : Language Char := 1 + part

/-- Any number of spaces. -/
def spaces : Language Char := (sign ' ')∗

/-- At least one space. -/
def gap : Language Char := sign ' ' * spaces

/-- A keyword in any letter case. -/
def keyword (word : String) : Language Char :=
  words fun cs => cs.map Char.toLower = word.toList.map Char.toLower

/-- A descriptor. -/
def IsDescriptor (cs : List Char) : Prop :=
  ∃ c ds, cs = c :: ds ∧ c.isAlpha = true ∧ ∀ d ∈ ds, Filter.isKeyChar d = true

/-- A numeric object identifier. -/
def numericOid : Language Char := words fun cs =>
  ∃ arc arcs, cs = arc ++ arcs.flatMap ('.' :: ·) ∧ arcs ≠ [] ∧ Filter.IsArc arc ∧
    ∀ a ∈ arcs, Filter.IsArc a

/-- What stands between quotes: a quote and a backslash are escaped there. -/
inductive IsQuotable : List Char → Prop
  | nil : IsQuotable []
  | plain {c : Char} {cs : List Char} (quote : c ≠ '\'') (escape : c ≠ '\\')
      (rest : IsQuotable cs) : IsQuotable (c :: cs)
  | quote {cs : List Char} (rest : IsQuotable cs) : IsQuotable ('\\' :: '2' :: '7' :: cs)
  | escape {c : Char} {cs : List Char} (digit : c = 'C' ∨ c = 'c') (rest : IsQuotable cs) :
      IsQuotable ('\\' :: '5' :: c :: cs)

/-! ## Fields -/

section

variable (Allowed : List Char → Prop)

/-- A class or an attribute: a descriptor, or an identifier. -/
def oid : Language Char := words (fun cs => IsDescriptor cs ∧ Allowed cs) + numericOid

/-- One class or attribute, or several in parentheses with dollar signs between them. -/
def oids : Language Char :=
  oid Allowed +
    sign '(' * spaces * (oid Allowed * (spaces * sign '$' * spaces * oid Allowed)∗) * spaces *
      sign ')'

/-- A text between quotes. -/
def quotedText : Language Char :=
  sign '\'' * words (fun cs => IsQuotable cs ∧ cs ≠ [] ∧ Allowed cs) * sign '\''

/-- A text between quotes, or several in parentheses. -/
def quotedTexts : Language Char :=
  quotedText Allowed +
    sign '(' * spaces * optional (quotedText Allowed * (gap * quotedText Allowed)∗) * spaces *
      sign ')'

/-- The name of an extension. -/
def extension : Language Char := words fun cs =>
  (∃ x ds, cs = x :: '-' :: ds ∧ (x = 'X' ∨ x = 'x') ∧ ds ≠ [] ∧
    ∀ d ∈ ds, d.isAlpha = true ∨ d = '-' ∨ d = '_') ∧ Allowed cs

/-- The fields behind the names of a class. -/
def laterFields : Language Char :=
  optional (gap * keyword "DESC" * gap * quotedText Allowed) *
  optional (gap * keyword "OBSOLETE") *
  optional (gap * keyword "SUP" * gap * oids Allowed) *
  optional (gap * (keyword "ABSTRACT" + keyword "STRUCTURAL" + keyword "AUXILIARY")) *
  optional (gap * keyword "MUST" * gap * oids Allowed) *
  optional (gap * keyword "MAY" * gap * oids Allowed) *
  (gap * extension Allowed * gap * quotedTexts Allowed)∗

end

/-! ## Names -/

/-- A descriptor between quotes. -/
def quotedName (name : String) : Language Char := words fun cs =>
  IsDescriptor name.toList ∧ cs = '\'' :: name.toList ++ ['\'']

/-- Descriptors between quotes, with spaces between them. -/
def nameList : List String → Language Char
  | [] => 1
  | [name] => quotedName name
  | name :: names => quotedName name * gap * nameList names

/-- One descriptor, or several in parentheses. -/
def quotedNames (names : List String) : Language Char :=
  words (fun cs => ∃ name, names = [name] ∧ cs ∈ quotedName name) +
    sign '(' * spaces * nameList names * spaces * sign ')'

/-- A NAME field: how the keyword is spelt, and what is declared. -/
structure NameField where
  spelling : List Char
  names : List String
  spelt : spelling ∈ keyword "NAME"

/-- The NAME field of a definition, or none. -/
def nameField : Option NameField → Language Char
  | none => 1
  | some f => gap * {f.spelling} * gap * quotedNames f.names

/-- A definition with this NAME field, whose other words are allowed. -/
def description (Allowed : List Char → Prop) (field : Option NameField) : Language Char :=
  sign '(' * spaces * numericOid * nameField field * laterFields Allowed * spaces * sign ')'

end ManagedLdap.Schema
