/-
# ManagedLdap.Attributes -- the attributes of an entry

An attribute set maps names to lists of values.  It is looked up without regard to
letter case and keeps the spelling an attribute was first given; it is listed in the
order of those spellings.  Reading one from JSON takes the names as they are, so two
spellings of one attribute can then stand side by side, and a look-up finds the first.
-/
import ManagedLdap.OrderedMap
import ManagedLdap.Text.Blank
import ManagedLdap.Json.Reader

namespace ManagedLdap

set_option autoImplicit false

/-- The attributes of an entry with their values. -/
structure Attributes where
  values : OrderedMap (List String)
  deriving DecidableEq, Inhabited

namespace Attributes

/-- The set without attributes. -/
def empty : Attributes := ⟨OrderedMap.empty⟩

/-- The attributes in the order of their names. -/
def toList (attrs : Attributes) : List (String × List String) := attrs.values.entries

/-- The first stored spelling of a name. -/
def spelling? (attrs : Attributes) (name : String) : Option String :=
  (attrs.toList.find? fun e => Text.sameFold e.1 name).map Prod.fst

/-- The values of an attribute. -/
def get? (attrs : Attributes) (name : String) : Option (List String) :=
  (attrs.toList.find? fun e => Text.sameFold e.1 name).map Prod.snd

/-- The first value of an attribute. -/
def first? (attrs : Attributes) (name : String) : Option String :=
  (attrs.get? name).bind List.head?

/-- Replace the values of an attribute, under the spelling it already has. -/
def put (attrs : Attributes) (name : String) (values : List String) : Attributes :=
  ⟨attrs.values.insert ((attrs.spelling? name).getD name) values⟩

/-- Add one value to an attribute, under the spelling it already has. -/
def add (attrs : Attributes) (name value : String) : Attributes :=
  let key := (attrs.spelling? name).getD name
  ⟨attrs.values.insert key ((attrs.values.get? key).getD [] ++ [value])⟩

/-- Take an attribute away under any spelling; its values are returned. -/
def remove (attrs : Attributes) (name : String) : Option (List String) × Attributes :=
  match attrs.spelling? name with
  | none => (none, attrs)
  | some key => (attrs.values.get? key, ⟨attrs.values.erase key⟩)

/-- Put the attributes of a list in turn. -/
def ofList (entries : List (String × List String)) : Attributes :=
  entries.foldl (fun attrs e => attrs.put e.1 e.2) empty

/-- How many attributes there are. -/
def size (attrs : Attributes) : Nat := attrs.values.size

/-! ## JSON -/

/-- The object of an attribute set. -/
def toJson (attrs : Attributes) : Json :=
  .record (attrs.toList.map fun e => (e.1, .texts e.2))

/-- One member of an object as an attribute. -/
def entry? (member : Json.Literal × Json) : Option (String × List String) := do
  let name ← member.1
  let values ← member.2.texts?
  return (name, values)

/-- An attribute set from an object of text lists.  Names are taken as they are; of a
name given twice the last one counts. -/
def ofJson? : Json → Option Attributes
  | .object members => (members.mapM entry?).map fun entries => ⟨OrderedMap.ofList entries⟩
  | _ => none

end Attributes

/-! ## Modifications -/

/-- What a modification does to the values of an attribute. -/
inductive ModOp where
  | add
  | replace
  | remove
  deriving DecidableEq, Repr

namespace ModOp

/-- The written form. -/
def text : ModOp → String
  | .add => "add"
  | .replace => "replace"
  | .remove => "remove"

/-- All operations with their written form. -/
def choices : List (String × ModOp) :=
  [("add", .add), ("replace", .replace), ("remove", .remove)]

end ModOp

/-- One step of changing an entry. -/
structure Modification where
  op : ModOp
  /-- The attribute it changes. -/
  name : String
  values : List String
  deriving DecidableEq, Repr

namespace Modification

/-- The same operation for every attribute of a set. -/
def ofAttributes (op : ModOp) (attrs : Attributes) : List Modification :=
  attrs.toList.map fun e => ⟨op, e.1, e.2⟩

end Modification

end ManagedLdap
