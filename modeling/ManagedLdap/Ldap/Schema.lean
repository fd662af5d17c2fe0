/-
# ManagedLdap.Ldap.Schema -- the names a schema definition declares

A schema definition gives its names after the word `NAME`: one quoted name, or several in
parentheses.
-/
import ManagedLdap.Text.Blank
import ManagedLdap.Text.Split

namespace ManagedLdap.Schema

set_option autoImplicit false

/-- What follows the first `NAME` of a definition. -/
def afterName : List Char → Option (List Char)
  | 'N' :: 'A' :: 'M' :: 'E' :: rest => some rest
  | _ :: rest => afterName rest
  | [] => none

/-- The second, fourth and further even elements of a list. -/
def everySecond {α : Type} : List α → List α
  | _ :: a :: rest => a :: everySecond rest
  | _ => []

/-- The texts between quotes: every second part of what the quotes separate. -/
def quoted (cs : List Char) : List String :=
  (everySecond (Text.splitOn '\'' cs)).map String.ofList

/-- The names that a definition declares. -/
def names (definition : String) : List String :=
  match afterName definition.toList with
  | none => []
  | some rest =>
      match rest.dropWhile Text.isBlank with
      | '(' :: list => quoted (list.takeWhile (· != ')'))
      | one => (quoted one).take 1

/-- The definitions that declare one of these names, in any letter case. -/
def declaring (classes definitions : List String) : List String :=
  definitions.filter fun d => (names d).any fun n => classes.any fun c => Text.sameFold c n

/-- Where the schema is when the server does not say. -/
def defaultDn : String := "cn=schema"

end ManagedLdap.Schema
