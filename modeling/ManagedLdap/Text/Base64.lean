/-
# ManagedLdap.Text.Base64 -- the standard padded Base64 form of octets

Binary attribute values are handed out as text: three octets become four letters,
and the last group is filled up with `=`.
-/
import ManagedLdap.Text.Octets

namespace ManagedLdap.Text

set_option autoImplicit false

/-- The letter of a six-bit value. -/
def base64Letter (n : Nat) : Char :=
  if n < 26 then Char.ofNat ('A'.toNat + n)
  else if n < 52 then Char.ofNat ('a'.toNat + (n - 26))
  else if n < 62 then Char.ofNat ('0'.toNat + (n - 52))
  else if n = 62 then '+'
  else '/'

/-- The letters of octets, three octets at a time. -/
def base64Chars : Octets → List Char
  | [] => []
  | [a] => [base64Letter (a.toNat / 4), base64Letter (a.toNat % 4 * 16), '=', '=']
  | [a, b] =>
      [base64Letter (a.toNat / 4), base64Letter (a.toNat % 4 * 16 + b.toNat / 16),
        base64Letter (b.toNat % 16 * 4), '=']
  | a :: b :: c :: rest =>
      base64Letter (a.toNat / 4) :: base64Letter (a.toNat % 4 * 16 + b.toNat / 16) ::
        base64Letter (b.toNat % 16 * 4 + c.toNat / 64) :: base64Letter (c.toNat % 64) ::
          base64Chars rest

/-- The standard padded Base64 form. -/
def base64 (octets : Octets) : String := String.ofList (base64Chars octets)

/-- The six-bit value of a letter. -/
def base64Value? (c : Char) : Option Nat :=
  if 'A' ≤ c ∧ c ≤ 'Z' then some (c.toNat - 'A'.toNat)
  else if 'a' ≤ c ∧ c ≤ 'z' then some (c.toNat - 'a'.toNat + 26)
  else if '0' ≤ c ∧ c ≤ '9' then some (c.toNat - '0'.toNat + 52)
  else if c = '+' then some 62
  else if c = '/' then some 63
  else none

/-- Read letters back, four at a time; only the last group may be padded. -/
def ofBase64Chars : List Char → Option Octets
  | [] => some []
  | [a, b, '=', '='] => do
      let a ← base64Value? a
      let b ← base64Value? b
      return [UInt8.ofNat (a * 4 + b / 16)]
  | [a, b, c, '='] => do
      let a ← base64Value? a
      let b ← base64Value? b
      let c ← base64Value? c
      return [UInt8.ofNat (a * 4 + b / 16), UInt8.ofNat (b % 16 * 16 + c / 4)]
  | a :: b :: c :: d :: rest => do
      let a ← base64Value? a
      let b ← base64Value? b
      let c ← base64Value? c
      let d ← base64Value? d
      let tail ← ofBase64Chars rest
      return UInt8.ofNat (a * 4 + b / 16) :: UInt8.ofNat (b % 16 * 16 + c / 4) ::
        UInt8.ofNat (c % 4 * 64 + d) :: tail
  | _ => none

/-- Octets from their Base64 form. -/
def ofBase64? (s : String) : Option Octets := ofBase64Chars s.toList

end ManagedLdap.Text
