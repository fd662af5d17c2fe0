/-
# ManagedLdap.Text.Octets -- octets, their hexadecimal form and UTF-8

Control values, binary attribute values and percent-encoded text are sequences of
octets.  `encodeUtf8` writes a text as octets, `decodeUtf8` reads them back and,
where they are not well formed, says at which octet and over how many octets the
first fault lies: a sequence that merely stops too early has no such width.
-/
namespace ManagedLdap

set_option autoImplicit false

/-- A sequence of octets. -/
abbrev Octets := List UInt8

namespace Text

/-! ## Hexadecimal -/

/-- The value of a hexadecimal digit in either case. -/
def hexDigit? (c : Char) : Option Nat :=
  if '0' ≤ c ∧ c ≤ '9' then some (c.toNat - '0'.toNat)
  else if 'a' ≤ c ∧ c ≤ 'f' then some (c.toNat - 'a'.toNat + 10)
  else if 'A' ≤ c ∧ c ≤ 'F' then some (c.toNat - 'A'.toNat + 10)
  else none

/-- The lower-case digit of a value below sixteen. -/
def hexDigit (n : Nat) : Char :=
  if n < 10 then Char.ofNat ('0'.toNat + n) else Char.ofNat ('a'.toNat + (n - 10))

/-- The upper-case digit of a value below sixteen. -/
def upperHexDigit (n : Nat) : Char :=
  if n < 10 then Char.ofNat ('0'.toNat + n) else Char.ofNat ('A'.toNat + (n - 10))

/-- Two lower-case digits for every octet. -/
def toHex (octets : Octets) : String :=
  String.ofList (octets.flatMap fun b => [hexDigit (b.toNat / 16), hexDigit (b.toNat % 16)])

/-- Read pairs of hexadecimal digits. -/
def ofHexChars : List Char → Option Octets
  | [] => some []
  | [_] => none
  | a :: b :: rest => do
      let hi ← hexDigit? a
      let lo ← hexDigit? b
      let tail ← ofHexChars rest
      return UInt8.ofNat (hi * 16 + lo) :: tail

/-- Octets from their hexadecimal form. -/
def ofHex? (s : String) : Option Octets := ofHexChars s.toList

/-! ## UTF-8 -/

/-- The octets of a text. -/
def encodeUtf8 (s : String) : Octets :=
  s.toList.flatMap String.utf8EncodeChar

/-- Where octets stop being UTF-8. -/
structure Utf8Fault where
  /-- How many octets before the fault are well formed. -/
  start : Nat
  /-- How many octets can be no part of any character; none when the octets end
  inside a character. -/
  width : Option Nat
  deriving DecidableEq, Repr

namespace Utf8Fault

/-- The wording of a fault. -/
def message (fault : Utf8Fault) : String :=
  match fault.width with
  | some n => s!"invalid utf-8 sequence of {n} bytes from index {fault.start}"
  | none => s!"incomplete utf-8 byte sequence from index {fault.start}"

end Utf8Fault

/-- The first octet of a character of several octets: how many octets follow, the
range of the next one, and the bits the first one carries. -/
def leadOctet? (b : Nat) : Option (Nat × Nat × Nat × Nat) :=
  if 0xC2 ≤ b ∧ b ≤ 0xDF then some (1, 0x80, 0xBF, b - 0xC0)
  else if b = 0xE0 then some (2, 0xA0, 0xBF, 0)
  else if b = 0xED then some (2, 0x80, 0x9F, 0xD)
  else if 0xE1 ≤ b ∧ b ≤ 0xEF then some (2, 0x80, 0xBF, b - 0xE0)
  else if b = 0xF0 then some (3, 0x90, 0xBF, 0)
  else if 0xF1 ≤ b ∧ b ≤ 0xF3 then some (3, 0x80, 0xBF, b - 0xF0)
  else if b = 0xF4 then some (3, 0x80, 0x8F, 4)
  else none

/-- What a decoder has read of the current character. -/
inductive Utf8State where
  /-- Between two characters. -/
  | boundary
  /-- Inside a character: octets read, octets missing, range of the next, bits so far. -/
  | inside (read missing lo hi bits : Nat)

/-- Read octets from position `start`, where the current character begins. -/
def decodeFrom : Nat → Utf8State → Octets → Except Utf8Fault (List Char)
  | _, .boundary, [] => .ok []
  | start, .inside .., [] => .error ⟨start, none⟩
  | start, .boundary, b :: rest =>
      if b.toNat < 0x80 then (decodeFrom (start + 1) .boundary rest).map (Char.ofNat b.toNat :: ·)
      else
        match leadOctet? b.toNat with
        | some (missing, lo, hi, bits) => decodeFrom start (.inside 1 missing lo hi bits) rest
        | none => .error ⟨start, some 1⟩
  | start, .inside read missing lo hi bits, b :: rest =>
      if lo ≤ b.toNat ∧ b.toNat ≤ hi then
        let bits := bits * 64 + b.toNat % 64
        if missing ≤ 1 then
          (decodeFrom (start + read + 1) .boundary rest).map (Char.ofNat bits :: ·)
        else decodeFrom start (.inside (read + 1) (missing - 1) 0x80 0xBF bits) rest
      else .error ⟨start, some read⟩

/-- The text of octets, or where they stop being UTF-8. -/
def decodeUtf8 (octets : Octets) : Except Utf8Fault String :=
  (decodeFrom 0 .boundary octets).map String.ofList

/-- The text of octets that need not be UTF-8: the replacement character stands for each
sequence of octets that can be no part of any character.  Every fault takes at least one
octet away, so `fuel` octets need no more than as many rounds. -/
def decodeForgiving : (fuel : Nat) → Octets → List Char
  | 0, _ => []
  | fuel + 1, octets =>
      match decodeFrom 0 .boundary octets with
      | .ok cs => cs
      | .error fault =>
          let before := match decodeFrom 0 .boundary (octets.take fault.start) with
            | .ok cs => cs
            | .error _ => []
          match fault.width with
          | none => before ++ ['\uFFFD']
          | some width =>
              before ++ '\uFFFD' :: decodeForgiving fuel (octets.drop (fault.start + width))

/-- The text of octets with the replacement character for what is not UTF-8. -/
def decodeUtf8Forgiving (octets : Octets) : String :=
  String.ofList (decodeForgiving (octets.length + 1) octets)

/-- The text of octets when they are UTF-8. -/
def decodeUtf8? (octets : Octets) : Option String :=
  (decodeUtf8 octets).toOption

end Text

end ManagedLdap
