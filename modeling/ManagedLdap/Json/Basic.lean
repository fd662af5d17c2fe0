/-
# ManagedLdap.Json.Basic -- JSON values as they are written

Configuration is read strictly: a field given twice is refused, a number with a
fraction is not a whole number, and a text with half of a surrogate pair denotes no
text at all, although it may stand where nobody looks.  A `Json` value therefore
keeps what the text says -- repeated members, the kind of a number, the fact that a
literal is unpaired -- and leaves the decision to the reader of each type.
-/
namespace ManagedLdap

set_option autoImplicit false

namespace Json

/-- What a string literal denotes; nothing when it holds an unpaired surrogate. -/
abbrev Literal := Option String

/-- A number as it is written. -/
inductive Number where
  /-- Digits with at most one minus sign, other than the negative zero. -/
  | whole (value : Int)
  /-- Any other spelling, kept as it is. -/
  | other (spelling : String)
  deriving DecidableEq, Repr

end Json

/-- A JSON value. -/
inductive Json where
  | null
  | bool (value : Bool)
  | number (value : Json.Number)
  | string (value : Json.Literal)
  | array (items : List Json)
  | object (members : List (Json.Literal × Json))
  deriving Repr, Inhabited

namespace Json

/-- A text. -/
def text (s : String) : Json := .string (some s)

/-- A whole number. -/
def whole (n : Int) : Json := .number (.whole n)

/-- A natural number. -/
def natural (n : Nat) : Json := .number (.whole n)

/-- A list of texts. -/
def texts (items : List String) : Json := .array (items.map text)

/-- An object with members in this order. -/
def record (members : List (String × Json)) : Json :=
  .object (members.map fun m => (some m.1, m.2))

/-- A value that may be absent, which is `null`. -/
def option {α : Type} (json : α → Json) : Option α → Json
  | none => .null
  | some a => json a

/-! ## Views

Each view is the value of one kind and nothing for every other kind: a number is
never read from a text, nor a truth value from a number. -/

def bool? : Json → Option Bool
  | .bool b => some b
  | _ => none

def text? : Json → Option String
  | .string s => s
  | _ => none

def array? : Json → Option (List Json)
  | .array items => some items
  | _ => none

def object? : Json → Option (List (Literal × Json))
  | .object members => some members
  | _ => none

/-- A whole number between two bounds. -/
def wholeIn? (lo hi : Int) : Json → Option Int
  | .number (.whole n) => if lo ≤ n ∧ n ≤ hi then some n else none
  | _ => none

/-- A natural number up to a bound. -/
def naturalTo? (hi : Nat) (j : Json) : Option Nat :=
  (wholeIn? 0 hi j).map Int.toNat

/-- A list of texts. -/
def texts? : Json → Option (List String)
  | .array items => items.mapM text?
  | _ => none

/-- The first member of that name in an object. -/
def member? (name : String) : Json → Option Json
  | .object members => (members.find? fun m => m.1 == some name).map Prod.snd
  | _ => none

end Json

end ManagedLdap
