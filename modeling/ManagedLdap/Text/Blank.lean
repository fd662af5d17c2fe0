/-
# ManagedLdap.Text.Blank -- blank characters, trimming and letter case

Names, placeholders and configuration values are trimmed of every character with
the Unicode property White_Space, while letter case is ignored for the ASCII
letters alone: attribute and DN comparison follow the protocol, not a locale.
Both are stated on lists of characters; the functions on `String` only wrap them.
-/
namespace ManagedLdap.Text

set_option autoImplicit false

/-! ## Blank characters -/

/-- The characters with the Unicode property White_Space. -/
def isBlank (c : Char) : Bool :=
  let n := c.toNat
  (0x09 ≤ n && n ≤ 0x0D) || n == 0x20 || n == 0x85 || n == 0xA0 || n == 0x1680 ||
    (0x2000 ≤ n && n ≤ 0x200A) || n == 0x2028 || n == 0x2029 || n == 0x202F ||
    n == 0x205F || n == 0x3000

/-- Drop the blank characters at the end. -/
def trimRightChars : List Char → List Char
  | [] => []
  | c :: cs =>
      match trimRightChars cs with
      | [] => if isBlank c then [] else [c]
      | d :: ds => c :: d :: ds

/-- Drop the blank characters at both ends. -/
def trimChars (cs : List Char) : List Char :=
  trimRightChars (cs.dropWhile isBlank)

/-- Text without the blank characters at its start. -/
def trimLeft (s : String) : String :=
  String.ofList (s.toList.dropWhile isBlank)

/-- Text without the blank characters at its ends. -/
def trim (s : String) : String :=
  String.ofList (trimChars s.toList)

/-! ## Letter case -/

/-- Text with its ASCII letters in lower case. -/
def fold (s : String) : String :=
  String.ofList (s.toList.map Char.toLower)

/-- Equality up to the case of ASCII letters. -/
def sameFold (a b : String) : Bool :=
  a.toList.map Char.toLower == b.toList.map Char.toLower

/-- Two texts agree up to letter case exactly when they fold to one text. -/
theorem sameFold_iff {a b : String} : sameFold a b = true ↔ fold a = fold b := by
  simp [sameFold, fold, String.ofList_inj]

theorem sameFold_refl (a : String) : sameFold a a = true := by
  simp [sameFold]

end ManagedLdap.Text
