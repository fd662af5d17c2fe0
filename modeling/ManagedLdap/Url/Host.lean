/-
# ManagedLdap.Url.Host -- the hosts of addresses

A host is an IPv6 address in brackets or a name.  For the directory schemes the name is
opaque: its case is kept and its characters are percent-encoded, not translated.  For the
schemes the URL standard calls special it is a domain name, and one that ends in a number
has to be an IPv4 address.
-/
import ManagedLdap.Text.Percent
import ManagedLdap.Text.Decimal
import ManagedLdap.DomainName.Basic

namespace ManagedLdap

set_option autoImplicit false

/-- Why a text is no address. -/
inductive UrlFault where
  | emptyHost
  | invalidPort
  | invalidDomain
  | invalidDomainCharacter
  | invalidIpv4
  | invalidIpv6
  | noScheme
  deriving DecidableEq, Repr

namespace UrlFault

/-- The wording of a fault. -/
def message : UrlFault → String
  | .emptyHost => "empty host"
  | .invalidPort => "invalid port number"
  | .invalidDomain => "invalid international domain name"
  | .invalidDomainCharacter => "invalid domain character"
  | .invalidIpv4 => "invalid IPv4 address"
  | .invalidIpv6 => "invalid IPv6 address"
  | .noScheme => "relative URL without a base"

end UrlFault

namespace Url

/-! ## Characters -/

/-- Tabs and line ends, which count nowhere. -/
def isIgnored (c : Char) : Bool := c == '\t' || c == '\n' || c == '\r'

/-- Controls and everything beyond ASCII. -/
def isControl (c : Char) : Bool := c.toNat < 0x20 || c.toNat > 0x7E

/-- The characters that no opaque host may hold. -/
def isForbiddenInHost (c : Char) : Bool :=
  c == Char.ofNat 0 || isIgnored c || c == ' ' || c == '#' || c == '/' || c == ':' ||
    c == '<' || c == '>' || c == '?' || c == '@' || c == '[' || c == '\\' || c == ']' ||
    c == '^' || c == '|'

/-! ## IPv6 addresses -/

/-- A part of an IPv4 address inside an IPv6 address: at most 255, without a leading
zero. -/
def ipv4Part? (cs : List Char) : Option Nat :=
  match cs with
  | '0' :: _ :: _ => none
  | _ => (Text.digits? cs).filter (· ≤ 255)

/-- One piece of an IPv6 address: up to four hexadecimal digits. -/
def ipv6Piece? (cs : List Char) : Option Nat :=
  if cs.isEmpty ∨ cs.length > 4 then none
  else cs.foldlM (fun value c => (Text.hexDigit? c).map (value * 16 + ·)) 0

/-- The pieces of a run between colons, where the last may be an IPv4 address. -/
def ipv6Pieces? (ipv4Allowed : Bool) : List (List Char) → Option (List Nat)
  | [] => some []
  | [last] =>
      match ipv6Piece? last with
      | some piece => some [piece]
      | none =>
          if ipv4Allowed then
            match (Text.splitOn '.' last).mapM ipv4Part? with
            | some [a, b, c, d] => some [a * 256 + b, c * 256 + d]
            | _ => none
          else none
  | part :: rest => do
      let piece ← ipv6Piece? part
      let pieces ← ipv6Pieces? ipv4Allowed rest
      return piece :: pieces

/-- The text before and after the first double colon. -/
def splitDoubleColon : List Char → Option (List Char × List Char)
  | ':' :: ':' :: rest => some ([], rest)
  | c :: rest => (splitDoubleColon rest).map fun (before, after) => (c :: before, after)
  | [] => none

/-- The pieces of one side of a double colon, which may be empty. -/
def ipv6Side? (ipv4Allowed : Bool) (cs : List Char) : Option (List Nat) :=
  if cs.isEmpty then some [] else ipv6Pieces? ipv4Allowed (Text.splitOn ':' cs)

/-- The eight pieces of an IPv6 address. -/
def ipv6? (cs : List Char) : Option (List Nat) :=
  match splitDoubleColon cs with
  | none => do
      let pieces ← ipv6Side? true cs
      if pieces.length = 8 then some pieces else none
  | some (before, after) => do
      let head ← ipv6Side? false before
      let tail ← ipv6Side? true after
      if head.length + tail.length ≤ 7 then
        some (head ++ List.replicate (8 - head.length - tail.length) 0 ++ tail)
      else none

/-- How many zeros a list starts with. -/
def leadingZeros (pieces : List Nat) : Nat := (pieces.takeWhile (· == 0)).length

/-- The first of the longest runs of zeros: its position and its length. -/
def longestZeros : Nat → List Nat → Nat × Nat
  | _, [] => (0, 0)
  | index, p :: ps =>
      let here := leadingZeros (p :: ps)
      let later := longestZeros (index + 1) ps
      if here = 0 ∨ here < later.2 then later else (index, here)

/-- The pieces of an address with colons between them. -/
def pieceText (pieces : List Nat) : String :=
  String.intercalate ":" (pieces.map fun n => String.ofList (Nat.toDigits 16 n))

/-- An IPv6 address as it is written: the first of the longest runs of at least two
zeros is shortened. -/
def ipv6Text (pieces : List Nat) : String :=
  let (index, length) := longestZeros 0 pieces
  if length ≥ 2 then
    pieceText (pieces.take index) ++ "::" ++ pieceText (pieces.drop (index + length))
  else pieceText pieces

/-! ## Hosts -/

/-- A host between brackets. -/
def bracketHost (cs : List Char) : Except UrlFault String :=
  match cs.reverse with
  | ']' :: inner =>
      match ipv6? (inner.reverse.drop 1) with
      | some pieces => .ok ("[" ++ ipv6Text pieces ++ "]")
      | none => .error .invalidIpv6
  | _ => .error .invalidIpv6

/-- The host of a scheme that is not special. -/
def opaqueHost (cs : List Char) : Except UrlFault String :=
  if cs.head? = some '[' then bracketHost cs
  else if cs.any isForbiddenInHost then .error .invalidDomainCharacter
  else .ok (Text.percentEncode isControl (String.ofList cs))

/-- A number of an IPv4 address: decimal, or after `0x` hexadecimal, or after `0` octal. -/
def ipv4Number? (cs : List Char) : Option Nat :=
  match cs with
  | [] => none
  | '0' :: x :: rest =>
      if x = 'x' ∨ x = 'X' then
        rest.foldlM (fun value c => (Text.hexDigit? c).map (value * 16 + ·)) 0
      else
        (x :: rest).foldlM
          (fun value c => ((Text.digit? c).filter (· < 8)).map (value * 8 + ·)) 0
  | _ => Text.digits? cs

/-- The parts of a dotted host, without the empty one after a final point. -/
def dottedParts (cs : List Char) : List (List Char) :=
  let parts := Text.splitOn '.' cs
  if parts.length > 1 ∧ parts.getLast? = some [] then parts.dropLast else parts

/-- Whether a domain name has to be an IPv4 address. -/
def endsInNumber (cs : List Char) : Bool :=
  match (dottedParts cs).getLast? with
  | some last =>
      (!last.isEmpty && last.all Char.isDigit) ||
        (last.take 2 == ['0', 'x'] && (ipv4Number? last).isSome)
  | none => false

/-- The value of an IPv4 address of one to four parts, the last of which fills the rest. -/
def ipv4? (cs : List Char) : Option Nat := do
  let numbers ← (dottedParts cs).mapM ipv4Number?
  let last ← numbers.getLast?
  let first := numbers.dropLast
  if first.length > 3 ∨ first.any (· > 255) ∨ last ≥ Nat.pow 256 (4 - first.length) then none
  else
    some (first.foldr (fun n (acc : Nat × Nat) => (acc.1 + n * Nat.pow 256 acc.2, acc.2 + 1))
      (last, 4 - first.length)).1

/-- An IPv4 address as four numbers. -/
def ipv4Text (n : Nat) : String :=
  String.intercalate "." ([n / 16777216, n / 65536 % 256, n / 256 % 256, n % 256].map toString)

/-- The host of a special scheme: the name is looked up in plain letters. -/
def domainHost (cs : List Char) : Except UrlFault String :=
  if cs.head? = some '[' then bracketHost cs
  else
    match Text.percentDecode (String.ofList cs) with
    | .error _ => .error .invalidDomain
    | .ok decoded =>
        match DomainName.plain? decoded.toList with
        | none => .error .invalidDomain
        | some [] => .error .emptyHost
        | some name =>
            if endsInNumber name then
              match ipv4? name with
              | some n => .ok (ipv4Text n)
              | none => .error .invalidIpv4
            else .ok (String.ofList name)

end Url

end ManagedLdap
