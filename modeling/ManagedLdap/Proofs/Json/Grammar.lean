/-
# ManagedLdap.Proofs.Json.Grammar -- the texts of a JSON value

One value has many texts.  Blanks may stand around every token, a character of a literal may stand
for itself or be escaped, and of a literal or a number that nobody looks at more is said than what
it denotes.  The reader only shows which texts it takes.  Here they are said by the grammar, with
one rule for each form of a value, so that what is proved of all texts of a value does not depend
on how they are read.
-/
import ManagedLdap.Json.Reader

namespace ManagedLdap.Json

set_option autoImplicit false

/-- Characters that may stand around a token. -/
def Blanks (cs : List Char) : Prop :=
  ∀ c ∈ cs, c = ' ' ∨ c = '\n' ∨ c = '\t' ∨ c = '\r'

/-! ## Literals -/

/-- The letters of short escapes, with the characters they stand for. -/
def escapes : List (Char × Char) :=
  [('"', '"'), ('\\', '\\'), ('/', '/'), ('b', Char.ofNat 8), ('f', Char.ofNat 12), ('n', '\n'),
    ('r', '\r'), ('t', '\t')]

/-- The characters of a literal up to its closing quote, with the units they stand for. -/
inductive SpellsUnits : List Nat → List Char → Prop
  | close : SpellsUnits [] ['"']
  /-- A character that stands for itself. -/
  | plain {c : Char} {units : List Nat} {cs : List Char} (printed : 0x20 ≤ c.toNat) (quote : c ≠ '"')
      (slash : c ≠ '\\') (others : SpellsUnits units cs) :
      SpellsUnits (c.toNat :: units) (c :: cs)
  | short {letter c : Char} {units : List Nat} {cs : List Char} (stands : (letter, c) ∈ escapes)
      (others : SpellsUnits units cs) : SpellsUnits (c.toNat :: units) ('\\' :: letter :: cs)
  | long {a b c d : Char} {unit : Nat} {units : List Nat} {cs : List Char}
      (value : hex4? a b c d = some unit) (others : SpellsUnits units cs) :
      SpellsUnits (unit :: units) ('\\' :: 'u' :: a :: b :: c :: d :: cs)

/-- The characters of a literal after its opening quote. -/
def SpellsLiteral (s : Literal) (cs : List Char) : Prop :=
  ∃ units, SpellsUnits units cs ∧ (joinUnits units).map String.ofList = s

/-! ## Numbers -/

/-- Digits before a fraction: a single zero, or digits that start with another. -/
inductive Whole : List Char → Prop
  | zero : Whole ['0']
  | digits {d : Char} {ds : List Char} (first : d.isDigit = true) (lead : d ≠ '0')
      (others : ∀ c ∈ ds, c.isDigit = true) : Whole (d :: ds)

/-- A fraction with its point, or nothing. -/
inductive Fraction : List Char → Prop
  | absent : Fraction []
  | digits {ds : List Char} (some : ds ≠ []) (all : ∀ c ∈ ds, c.isDigit = true) :
      Fraction ('.' :: ds)

/-- An exponent with its letter, or nothing. -/
inductive Exponent : List Char → Prop
  | absent : Exponent []
  | digits {letter : Char} {sign ds : List Char} (letters : letter = 'e' ∨ letter = 'E')
      (signs : sign = [] ∨ sign = ['+'] ∨ sign = ['-']) (some : ds ≠ [])
      (all : ∀ c ∈ ds, c.isDigit = true) : Exponent (letter :: sign ++ ds)

/-- The characters of a number.  Whatever is not written as a whole number is another, also the
negative zero. -/
inductive SpellsNumber : Number → List Char → Prop
  | natural {ds : List Char} (whole : Whole ds) :
      SpellsNumber (.whole (Nat.ofDigitChars 10 ds 0 : Nat)) ds
  | negative {ds : List Char} (whole : Whole ds) (nonzero : ds ≠ ['0']) :
      SpellsNumber (.whole (-(Nat.ofDigitChars 10 ds 0 : Nat))) ('-' :: ds)
  | other {sign ds fraction exponent : List Char} (signs : sign = [] ∨ sign = ['-'])
      (whole : Whole ds) (isFraction : Fraction fraction) (isExponent : Exponent exponent)
      (broken : fraction ≠ [] ∨ exponent ≠ [] ∨ sign = ['-'] ∧ ds = ['0']) :
      SpellsNumber (.other (String.ofList (sign ++ ds ++ fraction ++ exponent)))
        (sign ++ ds ++ fraction ++ exponent)

/-! ## Values -/

/-- The characters of a name in an object, up to the colon. -/
def SpellsName (name : Literal) (cs : List Char) : Prop :=
  ∃ before key after, Blanks before ∧ SpellsLiteral name key ∧ Blanks after ∧
    cs = before ++ '"' :: (key ++ (after ++ [':']))

mutual

/-- The characters of a value, with blanks before it. -/
inductive Spells : Json → List Char → Prop
  | null {before : List Char} (blank : Blanks before) : Spells .null (before ++ ['n', 'u', 'l', 'l'])
  | isTrue {before : List Char} (blank : Blanks before) :
      Spells (.bool true) (before ++ ['t', 'r', 'u', 'e'])
  | isFalse {before : List Char} (blank : Blanks before) :
      Spells (.bool false) (before ++ ['f', 'a', 'l', 's', 'e'])
  | number {n : Number} {before cs : List Char} (blank : Blanks before)
      (written : SpellsNumber n cs) : Spells (.number n) (before ++ cs)
  | string {s : Literal} {before cs : List Char} (blank : Blanks before)
      (written : SpellsLiteral s cs) : Spells (.string s) (before ++ '"' :: cs)
  | emptyArray {before inside : List Char} (blank : Blanks before) (none : Blanks inside) :
      Spells (.array []) (before ++ '[' :: (inside ++ [']']))
  | array {items : List Json} {before cs : List Char} (blank : Blanks before)
      (written : SpellsItems items cs) : Spells (.array items) (before ++ '[' :: cs)
  | emptyObject {before inside : List Char} (blank : Blanks before) (none : Blanks inside) :
      Spells (.object []) (before ++ '\x7b' :: (inside ++ ['\x7d']))
  | object {members : List (Literal × Json)} {before cs : List Char} (blank : Blanks before)
      (written : SpellsMembers members cs) : Spells (.object members) (before ++ '\x7b' :: cs)

/-- The characters of the elements of an array, up to its closing bracket. -/
inductive SpellsItems : List Json → List Char → Prop
  | last {item : Json} {cs after : List Char} (written : Spells item cs) (blank : Blanks after) :
      SpellsItems [item] (cs ++ (after ++ [']']))
  | more {item : Json} {items : List Json} {cs after tail : List Char} (written : Spells item cs)
      (blank : Blanks after) (others : SpellsItems items tail) :
      SpellsItems (item :: items) (cs ++ (after ++ ',' :: tail))

/-- The characters of the members of an object, up to its closing brace. -/
inductive SpellsMembers : List (Literal × Json) → List Char → Prop
  | last {name : Literal} {value : Json} {key cs after : List Char} (named : SpellsName name key)
      (written : Spells value cs) (blank : Blanks after) :
      SpellsMembers [(name, value)] (key ++ (cs ++ (after ++ ['\x7d'])))
  | more {name : Literal} {value : Json} {members : List (Literal × Json)}
      {key cs after tail : List Char} (named : SpellsName name key) (written : Spells value cs)
      (blank : Blanks after) (others : SpellsMembers members tail) :
      SpellsMembers ((name, value) :: members) (key ++ (cs ++ (after ++ ',' :: tail)))

end

/-- A text of one value, with blanks around it. -/
def SpellsText (j : Json) (text : String) : Prop :=
  ∃ cs after, Spells j cs ∧ Blanks after ∧ text.toList = cs ++ after

end ManagedLdap.Json
