/-
# ManagedLdap.Json.Printer -- writing JSON text

The compact form: no blanks, members in their given order, and escapes only for the
quote, the backslash and the control characters.
-/
import ManagedLdap.Json.Basic
import ManagedLdap.Text.Octets

namespace ManagedLdap.Json

set_option autoImplicit false

/-- One character of a literal. -/
def writeChar (c : Char) : List Char :=
  if c = '"' then ['\\', '"']
  else if c = '\\' then ['\\', '\\']
  else if c = '\n' then ['\\', 'n']
  else if c = '\r' then ['\\', 'r']
  else if c = '\t' then ['\\', 't']
  else if c = Char.ofNat 8 then ['\\', 'b']
  else if c = Char.ofNat 12 then ['\\', 'f']
  else if c.toNat < 0x20 then
    ['\\', 'u', '0', '0', Text.hexDigit (c.toNat / 16), Text.hexDigit (c.toNat % 16)]
  else [c]

/-- A literal; one that denotes no text is written as a lone surrogate. -/
def writeLiteral : Literal → List Char
  | some s => '"' :: s.toList.flatMap writeChar ++ ['"']
  | none => ['"', '\\', 'u', 'd', '8', '0', '0', '"']

/-- A number. -/
def writeNumber : Number → List Char
  | .whole n => (toString n).toList
  | .other spelling => spelling.toList

mutual

/-- The characters of a value. -/
def write : Json → List Char
  | .null => ['n', 'u', 'l', 'l']
  | .bool true => ['t', 'r', 'u', 'e']
  | .bool false => ['f', 'a', 'l', 's', 'e']
  | .number n => writeNumber n
  | .string s => writeLiteral s
  | .array items => '[' :: writeItems items ++ [']']
  | .object members => '\x7b' :: writeMembers members ++ ['\x7d']

/-- The elements of an array, with commas between them. -/
def writeItems : List Json → List Char
  | [] => []
  | [item] => write item
  | item :: next :: rest => write item ++ ',' :: writeItems (next :: rest)

/-- The members of an object, with commas between them. -/
def writeMembers : List (Literal × Json) → List Char
  | [] => []
  | [(name, value)] => writeLiteral name ++ ':' :: write value
  | (name, value) :: next :: rest =>
      writeLiteral name ++ ':' :: write value ++ ',' :: writeMembers (next :: rest)

end

/-- The compact text of a value. -/
def render (j : Json) : String := String.ofList (write j)

end ManagedLdap.Json
