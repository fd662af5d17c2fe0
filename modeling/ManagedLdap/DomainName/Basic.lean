/-
# ManagedLdap.DomainName.Basic -- international domain names in plain letters

A domain name is looked up in plain letters: every character is replaced by what it stands
for, the result is composed and cut at its points, and a label with other characters than
ASCII is written in Punycode behind a mark.  A label that already has the mark is read to
see that it could have been written this way.  A name has no plain form when a label breaks
one of the rules for marks, joiners and directions.  Hyphens may stand anywhere, and a
label may be longer than a name server would take.
-/
import ManagedLdap.Text.Split
import ManagedLdap.DomainName.Mapping
import ManagedLdap.DomainName.Composition
import ManagedLdap.DomainName.Punycode
import ManagedLdap.DomainName.Joining
import ManagedLdap.DomainName.Direction

namespace ManagedLdap.DomainName

set_option autoImplicit false

/-- The characters of ASCII that no domain name may hold. -/
def isForbidden (c : Char) : Bool :=
  c.toNat ≤ 0x20 || c.toNat == 0x7F || "%#/:<>?@[\\]^|".toList.contains c

/-- Whether all characters are ASCII. -/
def isPlain (cs : List Char) : Bool := cs.all fun c => c.toNat < 0x80

/-- A text with every character replaced by what it stands for, in composed form. -/
def normalized? (cs : List Char) : Option (List Char) := do
  let images ← cs.mapM image?
  return composed images.flatten

/-! ## Labels -/

/-- A part of a name between two points. -/
structure Label where
  /-- The characters it stands for. -/
  text : List Char
  /-- The form in which it is looked up. -/
  plain : List Char
  deriving DecidableEq, Repr

namespace Label

/-- What a plain form of other characters than ASCII starts with. -/
def plainMark : List Char := ['x', 'n', '-', '-']

/-- The longest label that is written in plain letters. -/
def maxText : Nat := 1000

/-- The longest plain form that is read. -/
def maxPlain : Nat := 2000

/-- Whether a label stands on its own: it starts with no mark, its joiners are in place, and
it can be written. -/
def isWellFormed (text : List Char) : Bool :=
  !(text.head?.any Text.isMark) && joinersFit [] text &&
    (isPlain text || text.length ≤ maxText)

/-- The text of a plain form, without its mark.  It ends in a number, so some character of
it is not ASCII. -/
def readPlain? (cs : List Char) : Option (List Char) := do
  if !isPlain cs || cs.isEmpty || cs.getLast? == some '-' || cs.length > maxPlain then none
  let text ← Punycode.decode? cs
  if normalized? text = some text then some text else none

/-- The label of normalized characters. -/
def ofText? (cs : List Char) : Option Label := do
  let label : Label ←
    if cs.take 4 = plainMark then
      (readPlain? (cs.drop 4)).map fun text => { text := text, plain := cs }
    else
      some { text := cs, plain := if isPlain cs then cs else plainMark ++ Punycode.encode cs }
  if isWellFormed label.text then some label else none

end Label

/-! ## Names -/

/-- The labels of a name. -/
def labels? (cs : List Char) : Option (List Label) := do
  let name ← normalized? cs
  if name.any isForbidden then none
  let labels ← (Text.splitOn '.' name).mapM Label.ofText?
  if areDirected (labels.map Label.text) then some labels else none

/-- The plain form of a name; none when it has no such form. -/
def plain? (cs : List Char) : Option (List Char) :=
  (labels? cs).map fun labels => List.intercalate ['.'] (labels.map Label.plain)

end ManagedLdap.DomainName
