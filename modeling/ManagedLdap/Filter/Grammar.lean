/-
# ManagedLdap.Filter.Grammar -- reading search filters

The grammar of RFC 4515: a filter in parentheses, or one bare item.  A filter is read
into a tree before it is sent, so a text that is no filter never reaches a server, and
`Tree.text` writes the tree back with every value unescaped and escaped again, so
that two spellings of one filter become one text.
-/
import ManagedLdap.Filter.Basic
import ManagedLdap.Text.Octets

namespace ManagedLdap.Filter

set_option autoImplicit false

/-- What a filter asserts. -/
inductive Tree where
  | all (parts : List Tree)
  | any (parts : List Tree)
  | not (part : Tree)
  | equal (name : String) (value : Octets)
  | present (name : String)
  /-- The value starts with `first`, ends with `last` and has `inner` between, in order. -/
  | substrings (name : String) (first : Octets) (inner : List Octets) (last : Octets)
  /-- An ordering or approximate match, with its operator. -/
  | compare (name : String) (operator : String) (value : Octets)
  /-- A match by rule; with `dn` the components of the name count too. -/
  | extensible (name : Option String) (dn : Bool) (rule : Option String) (value : Octets)
  deriving Repr, Inhabited

/-! ## Values -/

/-- Whether a character ends a value. -/
def endsValue (c : Char) : Bool :=
  c == '(' || c == ')' || c == '*' || c == Char.ofNat 0

/-- The octets of a value, its escapes undone, and what follows it. -/
def readValue : List Char → Option (Octets × List Char)
  | [] => some ([], [])
  | '\\' :: a :: b :: rest => do
      let hi ← Text.hexDigit? a
      let lo ← Text.hexDigit? b
      let (octets, rest) ← readValue rest
      return (UInt8.ofNat (hi * 16 + lo) :: octets, rest)
  | c :: rest =>
      if c = '\\' then none
      else if endsValue c then some ([], c :: rest)
      else do
        let (octets, rest) ← readValue rest
        return (String.utf8EncodeChar c ++ octets, rest)

/-- The values between stars: at most `stars` of them follow the first. -/
def readParts : Nat → List Char → Option (List Octets × List Char)
  | 0, cs => (readValue cs).map fun (octets, rest) => ([octets], rest)
  | stars + 1, cs => do
      let (octets, rest) ← readValue cs
      match rest with
      | '*' :: rest =>
          let (parts, rest) ← readParts stars rest
          return (octets :: parts, rest)
      | rest => return ([octets], rest)

/-! ## Attribute descriptions -/

/-- Whether a character may stand inside a descriptor. -/
def isKeyChar (c : Char) : Bool := c.isAlphanum || c == '-'

/-- A descriptor: a letter, then letters, digits and hyphens. -/
def readDescriptor : List Char → Option (List Char × List Char)
  | c :: rest =>
      if c.isAlpha then some (c :: rest.takeWhile isKeyChar, rest.dropWhile isKeyChar)
      else none
  | [] => none

/-- A component of an object identifier: digits without a leading zero. -/
def readArc (cs : List Char) : Option (List Char × List Char) :=
  match cs.takeWhile Char.isDigit with
  | [] => none
  | '0' :: _ :: _ => none
  | ds => some (ds, cs.dropWhile Char.isDigit)

/-- The further components of an object identifier, each after a point. -/
def readArcs : Nat → List Char → Option (List Char × List Char)
  | fuel + 1, '.' :: cs => do
      let (arc, rest) ← readArc cs
      let (arcs, rest) ← readArcs fuel rest
      return ('.' :: arc ++ arcs, rest)
  | _, cs => some ([], cs)

/-- An object identifier: one component or several. -/
def readOid (cs : List Char) : Option (List Char × List Char) := do
  let (arc, rest) ← readArc cs
  let (arcs, rest) ← readArcs rest.length rest
  return (arc ++ arcs, rest)

/-- The type of an attribute: a descriptor or an object identifier. -/
def readType (cs : List Char) : Option (List Char × List Char) :=
  (readDescriptor cs).orElse fun _ => readOid cs

/-- The options of an attribute, each after a semicolon. -/
def readOptions : Nat → List Char → List Char × List Char
  | fuel + 1, ';' :: cs =>
      match cs.takeWhile isKeyChar with
      | [] => ([], ';' :: cs)
      | key =>
          let (more, rest) := readOptions fuel (cs.dropWhile isKeyChar)
          (';' :: key ++ more, rest)
  | _, cs => ([], cs)

/-- An attribute type with its options. -/
def readDescription (cs : List Char) : Option (String × List Char) := do
  let (type, rest) ← readType cs
  let (options, rest) := readOptions rest.length rest
  return (String.ofList (type ++ options), rest)

/-! ## Items -/

/-- What an equality sign asserts of the values between stars. -/
def ofParts (name : String) : List Octets → Option Tree
  | [] => none
  | [value] => some (.equal name value)
  | first :: rest =>
      match rest.dropLast, rest.getLast? with
      | [], some [] => if first.isEmpty then some (.present name)
          else some (.substrings name first [] [])
      | inner, some last =>
          if inner.any List.isEmpty then none else some (.substrings name first inner last)
      | _, none => none

/-- The marker of a match on the components of the name, if it stands here. -/
def readDnMark : List Char → Bool × List Char
  | ':' :: 'd' :: 'n' :: rest => (true, rest)
  | cs => (false, cs)

/-- The rule of an extensible match, if one stands here. -/
def readRule : List Char → Option String × List Char
  | ':' :: rest =>
      match readType rest with
      | some (rule, rest) => (some (String.ofList rule), rest)
      | none => (none, ':' :: rest)
  | cs => (none, cs)

/-- An extensible match after its attribute. -/
def readExtensible (name : Option String) (cs : List Char) : Option (Tree × List Char) :=
  let (dn, rest) := readDnMark cs
  let (rule, rest) := readRule rest
  match rest with
  | ':' :: '=' :: rest =>
      if name.isNone && rule.isNone then none
      else (readValue rest).map fun (value, rest) => (.extensible name dn rule value, rest)
  | _ => none

/-- A simple filter without its parentheses. -/
def readItem (cs : List Char) : Option (Tree × List Char) :=
  match readDescription cs with
  | none => readExtensible none cs
  | some (name, rest) =>
      match rest with
      | '=' :: rest => do
          let (parts, rest) ← readParts rest.length rest
          let tree ← ofParts name parts
          return (tree, rest)
      | '>' :: '=' :: rest =>
          (readValue rest).map fun (value, rest) => (.compare name ">=" value, rest)
      | '<' :: '=' :: rest =>
          (readValue rest).map fun (value, rest) => (.compare name "<=" value, rest)
      | '~' :: '=' :: rest =>
          (readValue rest).map fun (value, rest) => (.compare name "~=" value, rest)
      | rest => readExtensible (some name) rest

/-! ## Filters -/

mutual

/-- A filter in parentheses, nested at most `depth` deep. -/
def readFilter : Nat → List Char → Option (Tree × List Char)
  | depth + 1, '(' :: cs => do
      let (tree, rest) ← readBody depth cs
      match rest with
      | ')' :: rest => return (tree, rest)
      | _ => none
  | _, _ => none

/-- What stands between two parentheses. -/
def readBody : Nat → List Char → Option (Tree × List Char)
  | depth + 1, '&' :: cs =>
      (readFilters depth cs).map fun (parts, rest) => (.all parts, rest)
  | depth + 1, '|' :: cs =>
      (readFilters depth cs).map fun (parts, rest) => (.any parts, rest)
  | depth + 1, '!' :: cs =>
      (readFilter depth cs).map fun (part, rest) => (.not part, rest)
  | _, cs => readItem cs

/-- As many filters as stand here. -/
def readFilters : Nat → List Char → Option (List Tree × List Char)
  | depth + 1, '(' :: cs => do
      let (part, rest) ← readFilter depth ('(' :: cs)
      let (parts, rest) ← readFilters depth rest
      return (part :: parts, rest)
  | _, cs => some ([], cs)

end

/-- The tree of a filter. -/
def parse? (s : String) : Option Tree :=
  let cs := s.toList
  let read := match cs with
    | '(' :: _ => readFilter (2 * cs.length + 2) cs
    | _ => readItem cs
  match read with
  | some (tree, []) => some tree
  | _ => none

/-! ## Writing a tree -/

/-- The octets of a value inside a filter; octets that are no text are all escaped. -/
def valueText (octets : Octets) : String :=
  match Text.decodeUtf8? octets with
  | some s => escape s
  | none => String.ofList (octets.flatMap fun b =>
      ['\\', Text.hexDigit (b.toNat / 16), Text.hexDigit (b.toNat % 16)])

namespace Tree

mutual

/-- The text of a filter in parentheses. -/
def text : Tree → String
  | .all parts => "(&" ++ texts parts ++ ")"
  | .any parts => "(|" ++ texts parts ++ ")"
  | .not part => "(!" ++ text part ++ ")"
  | .equal name value => "(" ++ name ++ "=" ++ valueText value ++ ")"
  | .present name => "(" ++ name ++ "=*)"
  | .substrings name first inner last =>
      "(" ++ name ++ "=" ++ valueText first ++ "*" ++
        String.join (inner.map fun v => valueText v ++ "*") ++ valueText last ++ ")"
  | .compare name operator value => "(" ++ name ++ operator ++ valueText value ++ ")"
  | .extensible name dn rule value =>
      "(" ++ name.getD "" ++ (if dn then ":dn" else "") ++
        (match rule with
          | some rule => ":" ++ rule
          | none => "") ++ ":=" ++ valueText value ++ ")"

/-- The texts of filters, one after the other. -/
def texts : List Tree → String
  | [] => ""
  | part :: rest => text part ++ texts rest

end

end Tree

end ManagedLdap.Filter
