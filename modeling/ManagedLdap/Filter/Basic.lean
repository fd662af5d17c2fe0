/-
# ManagedLdap.Filter.Basic -- writing search filters

A value is put into a filter only after `escape`, which leaves no character that the
filter grammar gives a meaning.  Two ways to write a filter rest on it: from a set of
attributes to match, and from an expression whose `{n}` placeholders stand for
arguments.  Inserted text is never scanned for placeholders again.
-/
import ManagedLdap.Attributes
import ManagedLdap.Text.Decimal

namespace ManagedLdap.Filter

set_option autoImplicit false

/-! ## Escaping -/

/-- One character of a value inside a filter. -/
def escapeChar (c : Char) : List Char :=
  if c = '\\' then ['\\', '5', 'c']
  else if c = '*' then ['\\', '2', 'a']
  else if c = '(' then ['\\', '2', '8']
  else if c = ')' then ['\\', '2', '9']
  else if c = Char.ofNat 0 then ['\\', '0', '0']
  else [c]

/-- The characters of a value inside a filter. -/
def escapeChars (cs : List Char) : List Char := cs.flatMap escapeChar

/-- A value as it is written inside a filter. -/
def escape (value : String) : String := String.ofList (escapeChars value.toList)

/-! ## Attributes to match -/

/-- The filter that every entry matches. -/
def matchAll : String := "(objectClass=*)"

/-- The items of one attribute: one for each value, or its presence when it has none. -/
def itemsOf (e : String × List String) : List String :=
  match e.2 with
  | [] => ["(" ++ e.1 ++ "=*)"]
  | values => values.map fun v => "(" ++ e.1 ++ "=" ++ escape v ++ ")"

/-- The filter of the entries that have all these attribute values. -/
def ofAttributes (matching : Attributes) : String :=
  match matching.toList.flatMap itemsOf with
  | [] => matchAll
  | [item] => item
  | items => "(&" ++ String.join items ++ ")"

/-! ## Placeholders -/

/-- Why the placeholders of an expression cannot be filled in. -/
inductive Fault where
  /-- A brace opens and none closes it. -/
  | unterminated
  /-- What stands between the braces is not an index. -/
  | malformed (content : String)
  /-- The index points past the arguments. -/
  | missing (index given : Nat)
  deriving DecidableEq, Repr

namespace Fault

/-- The wording of a fault in an expression. -/
def message (expr : String) : Fault → String
  | .unterminated => "unterminated placeholder in filter '" ++ expr ++ "'"
  | .malformed content =>
      "invalid placeholder '\x7b" ++ content ++ "\x7d' in filter '" ++ expr ++ "'"
  | .missing index given =>
      "filter '" ++ expr ++ "' references argument " ++ toString index ++ " but only " ++
        toString given ++ " given"

end Fault

/-- The index between two braces, with blanks around it. -/
def index? (content : List Char) : Option Nat :=
  Text.unsigned? Text.word64Max (Text.trimChars content)

/-- The argument a placeholder stands for. -/
def argument (args : List String) (content : List Char) : Except Fault String :=
  match index? content with
  | none => .error (.malformed (String.ofList content))
  | some i =>
      match args[i]? with
      | none => .error (.missing i args.length)
      | some arg => .ok arg

/-- Fill in the placeholders.  Inside a placeholder the second argument holds what has
been read of it, last character first. -/
def fill (args : List String) : Option (List Char) → List Char → Except Fault (List Char)
  | none, [] => .ok []
  | some _, [] => .error .unterminated
  | none, c :: cs =>
      if c = '\x7b' then fill args (some []) cs
      else (fill args none cs).map (c :: ·)
  | some seen, c :: cs =>
      if c = '\x7d' then
        match argument args seen.reverse with
        | .error fault => .error fault
        | .ok arg => (fill args none cs).map (escapeChars arg.toList ++ ·)
      else fill args (some (c :: seen)) cs

/-- The filter of an expression, its placeholders replaced by the escaped arguments. -/
def substitute (expr : String) (args : List String) : Except Fault String :=
  (fill args none expr.toList).map String.ofList

end ManagedLdap.Filter
