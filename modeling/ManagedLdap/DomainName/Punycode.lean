/-
# ManagedLdap.DomainName.Punycode -- labels in plain letters

Punycode writes a label with letters, digits and hyphens alone.  The ASCII
characters come first, then a hyphen, then one number for each other character: how many
steps lead to it through the pairs of a code point and a position, in increasing order.
The digits of a number carry its end with them: a digit below a threshold is the last one,
and the thresholds follow a bias that adapts to the numbers so far.
-/
namespace ManagedLdap.DomainName.Punycode

set_option autoImplicit false

/-! ## Digits and thresholds -/

/-- The digit of a value below 36: the letters come before the figures. -/
def digit (n : Nat) : Char :=
  if n < 26 then Char.ofNat ('a'.toNat + n) else Char.ofNat ('0'.toNat + (n - 26))

/-- The value of a digit. -/
def digit? (c : Char) : Option Nat :=
  if 'a' ≤ c ∧ c ≤ 'z' then some (c.toNat - 'a'.toNat)
  else if '0' ≤ c ∧ c ≤ '9' then some (c.toNat - '0'.toNat + 26)
  else none

/-- The threshold of the digit at `position`, which counts up from 36 in steps of 36. -/
def threshold (bias position : Nat) : Nat :=
  if position ≤ bias then 1
  else if bias + 26 ≤ position then 26
  else position - bias

theorem threshold_pos (bias position : Nat) : 0 < threshold bias position := by
  unfold threshold
  split
  · omega
  · split <;> omega

/-- How often a number has to be cut down to the size of a few digits, in steps of 36, and
how much of the next step is left. -/
def biasOf (delta : Nat) : Nat :=
  if 455 < delta then 36 + biasOf (delta / 35) else 36 * delta / (delta + 38)
termination_by delta
decreasing_by exact Nat.div_lt_self (by omega) (by omega)

/-- The bias after a number, when `points` characters are in place.  The first number of a
label tends to be large and counts for less. -/
def adapt (delta points : Nat) (first : Bool) : Nat :=
  let delta := if first then delta / 700 else delta / 2
  biasOf (delta + delta / points)

/-! ## Writing -/

/-- The digits of a number, the lowest first. -/
def numberDigits (bias position n : Nat) : List Char :=
  if h : n < threshold bias position then [digit n]
  else
    let t := threshold bias position
    digit (t + (n - t) % (36 - t)) :: numberDigits bias (position + 36) ((n - t) / (36 - t))
termination_by n
decreasing_by
  have := threshold_pos bias position
  have := Nat.div_le_self (n - threshold bias position) (36 - threshold bias position)
  omega

/-- A label that is being written. -/
structure Writing where
  /-- The digits so far, the last one first. -/
  digits : List Char
  /-- Steps since the last number. -/
  delta : Nat
  bias : Nat
  /-- How many characters are written. -/
  handled : Nat
  /-- No number is written yet. -/
  first : Bool

/-- Pass a character of the label while all characters `point` are written. -/
def Writing.pass (point : Nat) (w : Writing) (c : Char) : Writing :=
  if c.toNat < point then { w with delta := w.delta + 1 }
  else if c.toNat = point then
    { digits := (numberDigits w.bias 36 w.delta).reverse ++ w.digits
      delta := 0
      bias := adapt w.delta (w.handled + 1) w.first
      handled := w.handled + 1
      first := false }
  else w

/-- Write the characters of a label from the code point `reached` on, of which the first
list holds those that occur, in increasing order. -/
def writePoints (label : List Char) : List Nat → Nat → Writing → Writing
  | [], _, w => w
  | point :: points, reached, w =>
      let w := { w with delta := w.delta + (point - reached) * (w.handled + 1) }
      let w := label.foldl (Writing.pass point) w
      writePoints label points (point + 1) { w with delta := w.delta + 1 }

/-- The ASCII characters of a label. -/
def basic (label : List Char) : List Char := label.filter fun c => c.toNat < 0x80

/-- The code points beyond ASCII that occur in a label, in increasing order. -/
def furtherPoints (label : List Char) : List Nat :=
  (((label.map Char.toNat).filter (0x80 ≤ ·)).mergeSort (· ≤ ·)).eraseDups

/-- The plain form of a label. -/
def encode (label : List Char) : List Char :=
  let first := basic label
  let w := writePoints label (furtherPoints label) 0x80
    { digits := [], delta := 0, bias := 72, handled := first.length, first := true }
  first ++ (if first.isEmpty then [] else ['-']) ++ w.digits.reverse

/-! ## Reading -/

/-- A label that is being read. -/
structure Reading where
  /-- The characters in place. -/
  label : List Char
  /-- The code point that is reached. -/
  point : Nat
  /-- The position that is reached, with the steps of the current number. -/
  index : Nat
  /-- The position at which the current number started. -/
  start : Nat
  bias : Nat
  /-- What the next digit counts. -/
  weight : Nat
  /-- The position of the next digit in its number; the first is 36. -/
  position : Nat

/-- Numbers have to fit in 32 bits. -/
def fits (n : Nat) : Option Nat := if n < 4294967296 then some n else none

/-- The character of a code point. -/
def character? (n : Nat) : Option Char :=
  if n < 0xD800 ∨ (0xDFFF < n ∧ n < 0x110000) then some (Char.ofNat n) else none

/-- Read a digit; the last one of a number puts a character in place. -/
def Reading.next (r : Reading) (c : Char) : Option Reading := do
  let value ← digit? c
  let share ← fits (value * r.weight)
  let index ← fits (r.index + share)
  let t := threshold r.bias r.position
  if value < t then
    let points := r.label.length + 1
    let point ← fits (r.point + index / points)
    let character ← character? point
    let here := index % points
    return {
      label := r.label.take here ++ character :: r.label.drop here
      point := point
      index := here + 1
      start := here + 1
      bias := adapt (index - r.start) points (r.start == 0)
      weight := 1
      position := 36 }
  else
    let weight ← fits (r.weight * (36 - t))
    return { r with index := index, weight := weight, position := r.position + 36 }

/-- The ASCII characters before the last hyphen, and the numbers after it.  Without a
character before it a hyphen parts nothing. -/
def splitBasic (cs : List Char) : List Char × List Char :=
  let numbers := (cs.reverse.takeWhile (· != '-')).reverse
  let before := cs.take (cs.length - numbers.length - 1)
  if before.isEmpty then ([], cs) else (before, numbers)

/-- The label of a plain form. -/
def decode? (cs : List Char) : Option (List Char) := do
  let (first, numbers) := splitBasic cs
  let r ← numbers.foldlM Reading.next
    { label := first, point := 0x80, index := 0, start := 0, bias := 72, weight := 1,
      position := 36 }
  if r.position = 36 then some r.label else none

end ManagedLdap.DomainName.Punycode
