/-
# ManagedLdap.Name -- names relative to a context

A directory name grows to the right: the entry `name` below the entry `parent` is
`name,parent`.  `compose` resolves a relative name, `relativeTo` takes the part of a
full name above a base back out, and `splitRdn` parts a name from its parent at the
first comma that no backslash escapes.
-/
import ManagedLdap.Text.Blank

namespace ManagedLdap.Name

set_option autoImplicit false

/-! ## Composing -/

/-- The name `name` below `parent`.  Both are trimmed, and a blank one adds nothing. -/
def compose (name parent : String) : String :=
  let name := Text.trim name
  let parent := Text.trim parent
  if name.isEmpty then parent
  else if parent.isEmpty then name
  else name ++ "," ++ parent

/-! ## Relative names -/

/-- The part of a full name before a comma and a tail that is `base` up to letter
case; nothing when the name has no such tail or nothing stands before the comma. -/
def above? (dn base : List Char) : Option (List Char) :=
  let cut := dn.length - base.length
  if (dn.drop cut).map Char.toLower = base.map Char.toLower then
    match (dn.take cut).reverse with
    | ',' :: c :: rest => some (c :: rest).reverse
    | _ => none
  else none

/-- A full name as seen from `base`: empty for the base itself, the part above it for
a name that ends in a comma and the base, and the full name otherwise. -/
def relativeTo (dn base : String) : String :=
  if base.isEmpty then dn
  else if Text.sameFold dn base then ""
  else
    match above? dn.toList base.toList with
    | some rdns => String.ofList rdns
    | none => dn

/-! ## The first component -/

/-- The characters before and after the first comma that is not escaped; `escaped`
when a backslash stands before the first character. -/
def splitComma : Bool → List Char → Option (List Char × List Char)
  | _, [] => none
  | escaped, c :: cs =>
      if c = ',' ∧ escaped = false then some ([], cs)
      else
        (splitComma (c == '\\' && !escaped) cs).map fun (before, after) => (c :: before, after)

/-- The first component of a name and its parent, both trimmed; the parent is empty
when the name has one component. -/
def splitRdn (dn : String) : String × String :=
  match splitComma false dn.toList with
  | some (rdn, parent) => (Text.trim (String.ofList rdn), Text.trim (String.ofList parent))
  | none => (Text.trim dn, "")

end ManagedLdap.Name
