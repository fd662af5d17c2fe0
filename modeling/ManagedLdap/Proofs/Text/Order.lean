/-
# ManagedLdap.Proofs.Text.Order -- the order of texts is the order of their octets

Maps are listed in the order of their keys, which compares characters.  Whoever stores a text as
octets compares those.  UTF-8 is made so that both come out the same: the first octet of a longer
form is above every first octet of a shorter one, and within one form the bits of a character are
written from the highest down.
-/
import Mathlib.Tactic.SplitIfs
import ManagedLdap.Proofs.Text.Utf8

namespace ManagedLdap.Text

set_option autoImplicit false

variable {m n : Nat} {xs ys : Octets}

/-! ## Lists of octets -/

theorem octets_lt_of_lt (less : m < n) (small : n < 256) :
    UInt8.ofNat m :: xs < UInt8.ofNat n :: ys := by
  refine List.cons_lt_cons_iff.2 (.inl ?_)
  rw [UInt8.lt_iff_toNat_lt, toNat_octet (by omega), toNat_octet small]
  exact less

theorem octets_lt_of_eq (same : m = n) (less : xs < ys) :
    UInt8.ofNat m :: xs < UInt8.ofNat n :: ys :=
  List.cons_lt_cons_iff.2 (.inr ⟨congrArg UInt8.ofNat same, less⟩)

/-- Octets after the first compare as the bits they carry. -/
theorem trailing_lt (less : m % 64 < n % 64) :
    UInt8.ofNat (m % 64 + 128) :: xs < UInt8.ofNat (n % 64 + 128) :: ys :=
  octets_lt_of_lt (by omega) (by omega)

/-- Two octets after the first compare as the bits they carry together. -/
theorem trailing_two_lt (less : m % 4096 < n % 4096) :
    UInt8.ofNat (m / 64 % 64 + 128) :: UInt8.ofNat (m % 64 + 128) :: xs <
      UInt8.ofNat (n / 64 % 64 + 128) :: UInt8.ofNat (n % 64 + 128) :: ys := by
  by_cases same : m / 64 % 64 = n / 64 % 64
  · refine octets_lt_of_eq (by omega) (trailing_lt ?_)
    omega
  · refine trailing_lt ?_
    omega

/-! ## Characters -/

/-- A character before another is written before it, whatever follows them. -/
theorem utf8EncodeChar_append_lt {c d : Char} (less : c < d) :
    String.utf8EncodeChar c ++ xs < String.utf8EncodeChar d ++ ys := by
  have below : c.val.toNat < d.val.toNat := less
  have last : d.val.toNat < 1114112 := by
    rcases d.valid with low | ⟨-, high⟩ <;> exact Nat.lt_of_lt_of_le ‹_› (by decide)
  unfold String.utf8EncodeChar
  generalize c.val.toNat = v at below
  generalize d.val.toNat = w at below last
  dsimp only
  -- The forms of both, by their length; the first is not the longer one.
  by_cases one : v ≤ 127
  · rw [if_pos one]
    split_ifs
    · exact octets_lt_of_lt below (by omega)
    · exact octets_lt_of_lt (by omega) (by omega)
    · exact octets_lt_of_lt (by omega) (by omega)
    · exact octets_lt_of_lt (by omega) (by omega)
  have not_one : ¬ w ≤ 127 := by omega
  rw [if_neg one, if_neg not_one]
  by_cases two : v ≤ 2047
  · rw [if_pos two]
    split_ifs
    · by_cases same : v / 64 = w / 64
      · exact octets_lt_of_eq (by omega) (trailing_lt (by omega))
      · exact octets_lt_of_lt (by omega) (by omega)
    · exact octets_lt_of_lt (by omega) (by omega)
    · exact octets_lt_of_lt (by omega) (by omega)
  have not_two : ¬ w ≤ 2047 := by omega
  rw [if_neg two, if_neg not_two]
  by_cases three : v ≤ 65535
  · rw [if_pos three]
    split_ifs
    · by_cases same : v / 4096 = w / 4096
      · exact octets_lt_of_eq (by omega) (trailing_two_lt (by omega))
      · exact octets_lt_of_lt (by omega) (by omega)
    · exact octets_lt_of_lt (by omega) (by omega)
  have not_three : ¬ w ≤ 65535 := by omega
  rw [if_neg three, if_neg not_three]
  by_cases same : v / 262144 = w / 262144
  · refine octets_lt_of_eq (by omega) ?_
    by_cases second : v / 4096 % 64 = w / 4096 % 64
    · exact octets_lt_of_eq (by omega) (trailing_two_lt (by omega))
    · exact trailing_lt (by omega)
  · exact octets_lt_of_lt (by omega) (by omega)

/-! ## Texts -/

/-- A text before another is written before it. -/
theorem encodeUtf8_lt {a b : String} (less : a < b) : encodeUtf8 a < encodeUtf8 b := by
  have written {cs ds : List Char} (before : cs < ds) :
      cs.flatMap String.utf8EncodeChar < ds.flatMap String.utf8EncodeChar := by
    induction cs generalizing ds with
    | nil =>
        cases ds with
        | nil => exact absurd before (List.lt_irrefl [])
        | cons d ds =>
            have written : String.utf8EncodeChar d ≠ [] := by
              rw [← List.length_pos_iff, String.length_utf8EncodeChar]
              exact d.utf8Size_pos
            obtain ⟨b, bs, octets⟩ := List.exists_cons_of_ne_nil written
            rw [List.flatMap_nil, List.flatMap_cons, octets]
            exact List.nil_lt_cons _ _
    | cons c cs ih =>
        cases ds with
        | nil => exact absurd before (List.not_lt_nil _)
        | cons d ds =>
            obtain first | ⟨rfl, rest⟩ := List.cons_lt_cons_iff.1 before
            · exact utf8EncodeChar_append_lt first
            · exact List.append_left_lt (ih rest)
  exact written (String.lt_iff.1 less)

end ManagedLdap.Text
