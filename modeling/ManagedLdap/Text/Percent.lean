/-
# ManagedLdap.Text.Percent -- percent encoding

Writing replaces every character of a chosen set by its octets, each as `%` and
two upper-case digits.  Reading undoes it octet by octet and is forgiving: a `%`
that no two digits follow stands for itself.
-/
import ManagedLdap.Text.Octets

namespace ManagedLdap.Text

set_option autoImplicit false

/-- One octet as a percent escape. -/
def percentOctet (b : UInt8) : List Char :=
  ['%', upperHexDigit (b.toNat / 16), upperHexDigit (b.toNat % 16)]

/-- Write the characters that `escaped` selects as percent escapes. -/
def percentEncode (escaped : Char → Bool) (s : String) : String :=
  String.ofList (s.toList.flatMap fun c =>
    if escaped c then (String.utf8EncodeChar c).flatMap percentOctet else [c])

/-- The octets of a text whose percent escapes are undone. -/
def percentOctets : List Char → Octets
  | [] => []
  | '%' :: a :: b :: rest =>
      match hexDigit? a, hexDigit? b with
      | some hi, some lo => UInt8.ofNat (hi * 16 + lo) :: percentOctets rest
      | _, _ => 0x25 :: percentOctets (a :: b :: rest)
  | c :: rest => String.utf8EncodeChar c ++ percentOctets rest

/-- Undo the percent escapes of a text. -/
def percentDecode (s : String) : Except Utf8Fault String :=
  decodeUtf8 (percentOctets s.toList)

/-- Undo the percent escapes of a text, whether or not UTF-8 comes out. -/
def percentDecodeForgiving (s : String) : String :=
  decodeUtf8Forgiving (percentOctets s.toList)

end ManagedLdap.Text
