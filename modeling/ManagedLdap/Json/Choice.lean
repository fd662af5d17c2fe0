/-
# ManagedLdap.Json.Choice -- one of several words

An enumerated setting is written as its word, or as an object whose only member is
that word with `null`.  Letter case counts.
-/
import ManagedLdap.Json.Basic

namespace ManagedLdap.Json

set_option autoImplicit false

/-- The word of an enumerated value. -/
def word? : Json → Option String
  | .string s => s
  | .object [(some name, .null)] => some name
  | _ => none

/-- The value of a word among the given ones. -/
def choice? {α : Type} (choices : List (String × α)) (j : Json) : Option α := do
  let word ← j.word?
  (choices.find? fun c => c.1 == word).map Prod.snd

end ManagedLdap.Json
