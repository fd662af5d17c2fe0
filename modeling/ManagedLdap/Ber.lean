/-
# ManagedLdap.Ber -- the value of the paged results control

The value is the BER form of a sequence of a whole number, the size of a page, and an
octet string, the cookie by which the server finds its place again.  A server's value is
read in full as it is written here (`pagedValue?`); a client only looks for the cookie and
overlooks what else a server may put in (`pageCookie?`).
-/
import ManagedLdap.Text.Octets

namespace ManagedLdap.Ber

set_option autoImplicit false

/-! ## Writing -/

/-- The octets of a natural number, the lowest first, without leading zeros. -/
def littleEndian : Nat → Nat → Octets
  | 0, _ => []
  | fuel + 1, n => if n = 0 then [] else UInt8.ofNat (n % 256) :: littleEndian fuel (n / 256)

/-- The length octets of a part. -/
def length (n : Nat) : Octets :=
  if n < 128 then [UInt8.ofNat n]
  else
    let digits := (littleEndian n n).reverse
    UInt8.ofNat (128 + digits.length) :: digits

/-- A part with its tag and its length. -/
def part (tag : UInt8) (content : Octets) : Octets := tag :: length content.length ++ content

/-- How many numbers this many octets tell apart. -/
def span (w : Nat) : Nat := Nat.pow 256 w

/-- How many of these are below zero in two's complement. -/
def half (w : Nat) : Nat := Nat.pow 2 (8 * w - 1)

/-- How many octets a whole number takes in two's complement. -/
def width : Nat → Nat → Int → Nat
  | 0, w, _ => w
  | fuel + 1, w, n =>
      if -(half w : Int) ≤ n ∧ n < (half w : Int) then w else width fuel (w + 1) n

/-- A whole number in two's complement, in as few octets as it takes. -/
def integerOctets (n : Int) : Octets :=
  let w := width (n.natAbs + 1) 1 n
  let bits := (n % (span w : Int)).toNat
  (List.range w).reverse.map fun i => UInt8.ofNat (bits / span i % 256)

/-- The value of a paged results control. -/
def pagedValue (size : Int) (cookie : Octets) : Octets :=
  part 0x30 (part 0x02 (integerOctets size) ++ part 0x04 cookie)

/-! ## Reading -/

/-- The number of octets with the highest first. -/
def bigEndian (octets : Octets) : Nat := octets.foldl (fun n b => n * 256 + b.toNat) 0

/-- The content of a part with this tag, and what follows it. -/
def readPart (tag : UInt8) : Octets → Option (Octets × Octets)
  | t :: l :: rest =>
      if t ≠ tag then none
      else
        let n := l.toNat
        let (size, rest) :=
          if n < 128 then (n, rest) else (bigEndian (rest.take (n - 128)), rest.drop (n - 128))
        if size ≤ rest.length then some (rest.take size, rest.drop size) else none
  | _ => none

/-- The whole number of its two's complement. -/
def integer? (octets : Octets) : Option Int :=
  match octets with
  | [] => none
  | b :: _ =>
      let n := (bigEndian octets : Int)
      some (if b.toNat < 128 then n else n - (span octets.length : Int))

/-- The size and the cookie of a paged results control. -/
def pagedValue? (octets : Octets) : Option (Int × Octets) := do
  let (content, rest) ← readPart 0x30 octets
  let (sizeOctets, content) ← readPart 0x02 content
  let (cookie, after) ← readPart 0x04 content
  let size ← integer? sizeOctets
  if rest.isEmpty ∧ after.isEmpty then some (size, cookie) else none

/-- A part of a value: octets, or parts in turn. -/
inductive Element where
  | primitive (tag : UInt8) (content : Octets)
  | constructed (tag : UInt8) (parts : List Element)

/-- The tag and the content of the first part, and what follows it. -/
def splitElement : Octets → Option (UInt8 × Octets × Octets)
  | tag :: l :: rest =>
      let width := l.toNat - 128
      let size := if l.toNat < 128 then l.toNat else bigEndian (rest.take width)
      if width ≤ rest.length ∧ size ≤ (rest.drop width).length then
        some (tag, (rest.drop width).take size, (rest.drop width).drop size)
      else none
  | _ => none

/-- The parts that octets consist of.  Every part takes at least two octets, so `fuel` need
not exceed the number of octets by more than one. -/
def elements? : (fuel : Nat) → Octets → Option (List Element)
  | 0, _ => none
  | _ + 1, [] => some []
  | fuel + 1, octets => do
      let (tag, content, rest) ← splitElement octets
      let first ←
        if tag.toNat / 32 % 2 = 1 then (elements? fuel content).map (Element.constructed tag)
        else some (.primitive tag content)
      let others ← elements? fuel rest
      return first :: others

/-- The cookie of a paged results control as a client looks for it: in the second part of
the first constructed value, after a whole number. -/
def pageCookie? (octets : Octets) : Option Octets := do
  let (tag, content, _) ← splitElement octets
  if tag.toNat / 32 % 2 = 0 then none
  else
    match ← elements? (content.length + 1) content with
    | .primitive 0x02 _ :: .primitive _ cookie :: _ => some cookie
    | _ => none

end ManagedLdap.Ber
