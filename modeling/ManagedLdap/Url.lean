/-
# ManagedLdap.Url -- addresses as the URL standard reads them

The addresses of servers and referrals are read by the rules of the URL standard:
blanks and controls around the text are stripped, tabs and line ends are dropped wherever
they stand, the scheme loses its case, dot segments are resolved and query and fragment
are cut off.
-/
import ManagedLdap.Url.Host

namespace ManagedLdap

set_option autoImplicit false

/-- An address, as far as a directory needs it. -/
structure Url where
  /-- The scheme in lower case. -/
  scheme : String
  /-- The host as it is written back; absent when the address names none. -/
  host : Option String
  /-- The port; absent when none is given or it is the scheme's own. -/
  port : Option Nat
  /-- The path in percent-encoded form. -/
  path : String
  deriving DecidableEq, Repr

namespace Url

/-! ## Characters -/

/-- Controls and the space, which are stripped from both ends. -/
def isMargin (c : Char) : Bool := c.toNat ≤ 0x20

/-- The characters of an address that count. -/
def significant (cs : List Char) : List Char :=
  (((cs.dropWhile isMargin).reverse.dropWhile isMargin).reverse).filter fun c => !isIgnored c

/-- The characters that a path holds in percent-encoded form. -/
def isPathEscaped (c : Char) : Bool :=
  isControl c || c == ' ' || c == '"' || c == '<' || c == '>' || c == '`' || c == '#' ||
    c == '?' || c == '\x7b' || c == '\x7d'

/-! ## Scheme -/

/-- Whether a character may stand in a scheme after its first letter. -/
def isSchemeChar (c : Char) : Bool :=
  c.isAlphanum || c == '+' || c == '-' || c == '.'

/-- The scheme in lower case and what follows its colon. -/
def readScheme (cs : List Char) : Option (List Char × List Char) :=
  match cs with
  | c :: _ =>
      if c.isAlpha then
        match cs.dropWhile isSchemeChar with
        | ':' :: rest => some ((cs.takeWhile isSchemeChar).map Char.toLower, rest)
        | _ => none
      else none
  | [] => none

/-- What the standard knows of a scheme. -/
inductive SchemeKind where
  /-- The host is a domain name; the scheme has a port of its own. -/
  | special (port : Nat)
  | file
  | general
  deriving DecidableEq, Repr

def schemeKind (scheme : String) : SchemeKind :=
  if scheme = "http" ∨ scheme = "ws" then .special 80
  else if scheme = "https" ∨ scheme = "wss" then .special 443
  else if scheme = "ftp" then .special 21
  else if scheme = "file" then .file
  else .general

/-- Whether a backslash parts the address like a slash. -/
def SchemeKind.isSpecial : SchemeKind → Bool
  | .general => false
  | _ => true

/-! ## Authority -/

/-- Whether a character ends the authority. -/
def endsAuthority (kind : SchemeKind) (c : Char) : Bool :=
  c == '/' || c == '?' || c == '#' || (kind.isSpecial && c == '\\')

/-- User information and the rest of an authority, parted at the last at sign. -/
def splitUser (authority : List Char) : Option (List Char × List Char) :=
  match (Text.splitOn '@' authority).reverse with
  | last :: before :: more => some ((List.intercalate ['@'] (before :: more).reverse), last)
  | _ => none

/-- Whether user information leaves a trace in an address: a name, or a password. -/
def hasUser (user : List Char) : Bool :=
  match user.dropWhile (· != ':') with
  | ':' :: _ :: _ => true
  | _ => user.head? != none && user != [':']

/-- The host part and the rest, parted at the first colon outside brackets. -/
def splitPort : Bool → List Char → List Char × Option (List Char)
  | _, [] => ([], none)
  | inBrackets, c :: cs =>
      if c = ':' ∧ inBrackets = false then ([], some cs)
      else
        let inBrackets := if c = '[' then true else if c = ']' then false else inBrackets
        let (host, port) := splitPort inBrackets cs
        (c :: host, port)

/-- Digits of a port and what follows them; a number beyond 16 bits is refused at its
first surplus digit. -/
def readPort : Option Nat → List Char → Except UrlFault (Option Nat × List Char)
  | value, [] => .ok (value, [])
  | value, c :: cs =>
      match Text.digit? c with
      | some d =>
          let next := value.getD 0 * 10 + d
          if next > 65535 then .error .invalidPort else readPort (some next) cs
      | none =>
          if c = '\\' then .ok (value, c :: cs) else .error .invalidPort

/-! ## Path -/

/-- A path segment that stands for its own directory. -/
def isSingleDot (segment : List Char) : Bool :=
  let s := segment.map Char.toLower
  s == ['.'] || s == ['%', '2', 'e']

/-- A path segment that stands for the directory above. -/
def isDoubleDot (segment : List Char) : Bool :=
  let s := segment.map Char.toLower
  s == ['.', '.'] || s == ['.', '%', '2', 'e'] || s == ['%', '2', 'e', '.'] ||
    s == ['%', '2', 'e', '%', '2', 'e']

/-- Whether a text is the letter of a drive. -/
def isDriveLetter (cs : List Char) : Bool :=
  match cs with
  | [letter, mark] => letter.isAlpha && (mark == ':' || mark == '|')
  | _ => false

/-- Whether a path segment names a drive, alone or before a backslash. -/
def namesDrive (segment : List Char) : Bool :=
  isDriveLetter (segment.take 2) && (segment[2]? == none || segment[2]? == some '\\')

/-- The segments of the directory above, where the last segment stands first.  Nothing is
above a drive. -/
def parent : List (List Char) → List (List Char)
  | [] => []
  | segment :: done => if namesDrive segment then segment :: done else done

/-- The segments of a path with its dot segments resolved.  `done` holds the segments so
far, last one first. -/
def resolveDots : List (List Char) → List (List Char) → List (List Char)
  | done, [] => done.reverse
  | done, [last] =>
      if isDoubleDot last then ([] :: parent done).reverse
      else if isSingleDot last then ([] :: done).reverse
      else (last :: done).reverse
  | done, segment :: rest =>
      if isDoubleDot segment then resolveDots (parent done) rest
      else if isSingleDot segment then resolveDots done rest
      else resolveDots (segment :: done) rest

/-- The path after the slash that starts it. -/
def resolvePath (kind : SchemeKind) (cs : List Char) : String :=
  let cs := if kind.isSpecial then cs.map fun c => if c = '\\' then '/' else c else cs
  let segments := resolveDots [] (Text.splitOn '/' cs)
  String.ofList (segments.flatMap fun s => '/' :: s)
    |> Text.percentEncode isPathEscaped

/-- Everything before the query and the fragment. -/
def withoutQuery (cs : List Char) : List Char := cs.takeWhile fun c => c != '?' && c != '#'

/-- The path that follows an authority. -/
def pathAfterAuthority (kind : SchemeKind) (cs : List Char) : String :=
  match withoutQuery cs with
  | [] => if kind.isSpecial then "/" else ""
  | c :: rest =>
      if c = '/' ∨ (kind.isSpecial ∧ c = '\\') then resolvePath kind rest
      else resolvePath kind (c :: rest)

/-! ## Addresses -/

/-- The host of an authority by the rules of its scheme. -/
def readHost : SchemeKind → List Char → Except UrlFault String
  | .general, cs => opaqueHost cs
  | _, cs => if cs.isEmpty then .error .emptyHost else domainHost cs

/-- An address after the two slashes of its authority. -/
def afterSlashes (scheme : String) (kind : SchemeKind) (cs : List Char) :
    Except UrlFault Url := do
  let authority := cs.takeWhile fun c => !endsAuthority kind c
  let rest := cs.dropWhile fun c => !endsAuthority kind c
  let (user, hostPort) := (splitUser authority).getD ([], authority)
  if (splitUser authority).isSome ∧ user.isEmpty ∧ hostPort.isEmpty ∧ !rest.isEmpty then
    throw .emptyHost
  let (hostText, portText) := splitPort false hostPort
  let host ← readHost kind hostText
  if host.isEmpty ∧ portText.isSome then throw .emptyHost
  let (port, left) ← match portText with
    | some cs => readPort none cs
    | none => pure (none, [])
  if host.isEmpty ∧ hasUser user then throw .emptyHost
  let port := match kind with
    | .special own => if port = some own then none else port
    | _ => port
  return {
    scheme := scheme
    host := if host.isEmpty then none else some host
    port := port
    path := pathAfterAuthority kind (left ++ rest) }

/-- An address without a host. -/
def withoutHost (scheme path : String) : Url :=
  { scheme := scheme, host := none, port := none, path := path }

/-- The address of a file after the two slashes of its host, which has neither user
information nor a port.  A drive letter is no host but the start of a path. -/
def fileAfterSlashes (scheme : String) (cs : List Char) : Except UrlFault Url := do
  let hostText := cs.takeWhile fun c => !endsAuthority .file c
  let rest := cs.dropWhile fun c => !endsAuthority .file c
  if isDriveLetter hostText then return withoutHost scheme (pathAfterAuthority .file cs)
  if hostText.isEmpty then return withoutHost scheme (pathAfterAuthority .file rest)
  let host ← domainHost hostText
  return {
    scheme := scheme
    host := if host = "localhost" then none else some host
    port := none
    path := pathAfterAuthority .file rest }

/-- An address after the colon of its scheme. -/
def afterScheme (scheme : String) (cs : List Char) : Except UrlFault Url :=
  let kind := schemeKind scheme
  match kind with
  | .special _ => afterSlashes scheme kind (cs.dropWhile fun c => c == '/' || c == '\\')
  | .file =>
      match cs with
      | a :: b :: rest =>
          if (a = '/' ∨ a = '\\') ∧ (b = '/' ∨ b = '\\') then fileAfterSlashes scheme rest
          else .ok (withoutHost scheme (pathAfterAuthority kind cs))
      | _ => .ok (withoutHost scheme (pathAfterAuthority kind cs))
  | .general =>
      match cs with
      | '/' :: '/' :: rest => afterSlashes scheme kind rest
      | '/' :: rest => .ok (withoutHost scheme (resolvePath kind (withoutQuery rest)))
      | _ =>
          .ok (withoutHost scheme
            (Text.percentEncode isControl (String.ofList (withoutQuery cs))))

/-- The address of a text. -/
def parse (s : String) : Except UrlFault Url :=
  match readScheme (significant s.toList) with
  | none => .error .noScheme
  | some (scheme, rest) => afterScheme (String.ofList scheme) rest

end Url

end ManagedLdap
