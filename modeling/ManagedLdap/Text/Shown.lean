/-
# ManagedLdap.Text.Shown -- the debugging view of a value

Every type of the library that can be inspected says what it shows as a value of
`Shown`; `Shown.render` is the one place that knows how records, lists, maps and
quoted texts are spelt.  A record may be marked as partial: it then ends in two
dots, which tells the reader that some fields are withheld.
-/
import ManagedLdap.Text.Unprintable
import ManagedLdap.Text.Octets

namespace ManagedLdap

set_option autoImplicit false

/-- What a value shows of itself. -/
inductive Shown where
  /-- A bare word: a number, a constant, a name. -/
  | word (text : String)
  /-- A text in quotes. -/
  | text (content : String)
  /-- A record with named fields; `partly` when it withholds others. -/
  | record (name : String) (fields : List (String × Shown)) (partly : Bool)
  /-- A constructor around one value. -/
  | wrapped (name : String) (content : Shown)
  | list (items : List Shown)
  | map (entries : List (String × Shown))

namespace Shown

/-- The digits of a code point in lower-case hexadecimal. -/
def codePoint (c : Char) : List Char :=
  Nat.toDigits 16 c.toNat

/-- One character of a quoted text. -/
def quoteChar (c : Char) : List Char :=
  if c = '"' then ['\\', '"']
  else if c = '\\' then ['\\', '\\']
  else if c = '\n' then ['\\', 'n']
  else if c = '\r' then ['\\', 'r']
  else if c = '\t' then ['\\', 't']
  else if c = Char.ofNat 0 then ['\\', '0']
  else if Text.isUnprintable c then ['\\', 'u', '\x7b'] ++ codePoint c ++ ['\x7d']
  else [c]

/-- A text in quotes. -/
def quote (s : String) : String :=
  String.ofList ('"' :: s.toList.flatMap quoteChar ++ ['"'])

/-- Put a comma and a space between two neighbours. -/
def separated : List String → String
  | [] => ""
  | [s] => s
  | s :: rest => s ++ ", " ++ separated rest

mutual

/-- The spelling of a shown value. -/
def render : Shown → String
  | .word spelling => spelling
  | .text content => quote content
  | .record name fields partly =>
      let written := renderFields fields ++ (if partly then [".."] else [])
      if written.isEmpty then name
      else name ++ " \x7b " ++ separated written ++ " \x7d"
  | .wrapped name content => name ++ "(" ++ render content ++ ")"
  | .list items => "[" ++ separated (renderItems items) ++ "]"
  | .map entries => "\x7b" ++ separated (renderEntries entries) ++ "\x7d"

/-- The spellings of the elements of a list. -/
def renderItems : List Shown → List String
  | [] => []
  | item :: rest => render item :: renderItems rest

/-- The spellings of the fields of a record. -/
def renderFields : List (String × Shown) → List String
  | [] => []
  | (name, value) :: rest => (name ++ ": " ++ render value) :: renderFields rest

/-- The spellings of the entries of a map. -/
def renderEntries : List (String × Shown) → List String
  | [] => []
  | (key, value) :: rest => (quote key ++ ": " ++ render value) :: renderEntries rest

end

/-- A truth value. -/
def bool (b : Bool) : Shown := .word (if b then "true" else "false")

/-- A natural number. -/
def nat (n : Nat) : Shown := .word (toString n)

/-- A value that may be absent. -/
def option {α : Type} (shown : α → Shown) : Option α → Shown
  | none => .word "None"
  | some a => .wrapped "Some" (shown a)

/-- Octets, as the list of their values. -/
def octets (bytes : Octets) : Shown := .list (bytes.map fun b => nat b.toNat)

end Shown

end ManagedLdap
