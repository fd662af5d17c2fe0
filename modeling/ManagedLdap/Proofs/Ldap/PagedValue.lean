/-
# ManagedLdap.Proofs.Ldap.PagedValue -- the size of a page in octets

A server has nothing but the octets of the paged results control to tell the size of a page from.
Numbers take as few octets as their two's complement needs (`width_fits`, `width_le`), highest
first, and the highest bit of all is their sign; `integer?_integerOctets` reads any number back.
Parts are read back with whatever comes after them, as long as one octet is enough for their
length (`readPart_part`), and so is the whole value for a page of 32 bits (`pagedValue?_ofWord`).
-/
import ManagedLdap.Ber
import ManagedLdap.Proofs.Text.Decimal

namespace ManagedLdap.Ber

set_option autoImplicit false

/-! ## Numbers -/

/-- A whole number that takes no more than this many octets. -/
def Fits (w : Nat) (n : Int) : Prop := -(half w : Int) ≤ n ∧ n < (half w : Int)

theorem span_succ (w : Nat) : span (w + 1) = 256 * span w := Nat.pow_succ'

theorem span_pos (w : Nat) : 0 < span w := Nat.pow_pos (by decide)

theorem half_succ (w : Nat) : half (w + 1) = 128 * span w := by
  have bits : 8 * (w + 1) - 1 = 7 + 8 * w := by omega
  calc half (w + 1) = 2 ^ (7 + 8 * w) := congrArg (Nat.pow 2) bits
    _ = 128 * (2 ^ 8) ^ w := by rw [Nat.pow_add, Nat.pow_mul]

/-- Where a number finds room at last, it finds it in its width. -/
theorem width_fits {fuel w : Nat} {n : Int} (room : Fits (w + fuel) n) :
    Fits (width fuel w n) n := by
  induction fuel generalizing w with
  | zero => exact room
  | succ fuel ih =>
      rw [width]
      split
      · next fits => exact fits
      · exact ih (by rwa [Nat.add_assoc, Nat.add_comm 1])

theorem le_width (fuel w : Nat) (n : Int) : w ≤ width fuel w n := by
  induction fuel generalizing w with
  | zero => exact Nat.le_refl w
  | succ fuel ih =>
      rw [width]
      split
      · exact Nat.le_refl w
      · exact Nat.le_of_succ_le (ih (w + 1))

/-- No fewer octets are enough. -/
theorem width_le {fuel w v : Nat} {n : Int} (fits : Fits v n) (within : w ≤ v) :
    width fuel w n ≤ v := by
  induction fuel generalizing w with
  | zero => exact within
  | succ fuel ih =>
      rw [width]
      split
      · exact within
      · next tight =>
          refine ih (Nat.lt_of_le_of_ne within ?_)
          rintro rfl
          exact tight fits

/-- Every number has room in as many octets as its size. -/
theorem fits_natAbs (n : Int) : Fits (1 + (n.natAbs + 1)) n := by
  have large : n.natAbs < 128 * span (1 + n.natAbs) := by
    calc n.natAbs < 1 + n.natAbs := by omega
      _ < span (1 + n.natAbs) := Nat.lt_pow_self (by decide)
      _ ≤ 128 * span (1 + n.natAbs) := Nat.le_mul_of_pos_left _ (by decide)
  rw [← Nat.add_assoc, Fits, half_succ]
  omega

theorem toNat_digit (bits place : Nat) :
    (UInt8.ofNat (bits / span place % 256)).toNat = bits / span place % 256 :=
  UInt8.toNat_ofNat_of_lt' (Nat.mod_lt _ (by decide))

/-- The digit of the highest place comes first. -/
theorem digits_succ (bits places : Nat) :
    ((List.range (places + 1)).reverse.map fun i => UInt8.ofNat (bits / span i % 256)) =
      UInt8.ofNat (bits / span places % 256) ::
        (List.range places).reverse.map fun i => UInt8.ofNat (bits / span i % 256) := by
  rw [List.range_succ, List.reverse_append, List.reverse_singleton, List.singleton_append,
    List.map_cons]

/-- Digits are read onto what stands before them. -/
theorem foldl_digits (bits places before : Nat) :
    ((List.range places).reverse.map fun i => UInt8.ofNat (bits / span i % 256)).foldl
      (fun n b => n * 256 + b.toNat) before = before * span places + bits % span places := by
  induction places generalizing before with
  | zero => simp [span, Nat.mod_one]
  | succ places ih =>
      have last : bits % span (places + 1) =
          bits % span places + span places * (bits / span places % 256) := Nat.mod_pow_succ
      rw [digits_succ, List.foldl_cons, ih, toNat_digit, last, span_succ]
      grind

/-- The bits are the number itself, or what it lacks to the next power where it is negative. -/
theorem bits_eq {places : Nat} {n : Int} (fits : Fits (places + 1) n) :
    ((n % (span (places + 1) : Int)).toNat : Int) =
      if 0 ≤ n then n else n + (span (places + 1) : Int) := by
  have positive := span_pos places
  have whole := span_succ places
  rw [Fits, half_succ] at fits
  rw [Int.toNat_of_nonneg (Int.emod_nonneg _ (by omega))]
  split
  · exact Int.emod_eq_of_lt (by omega) (by omega)
  · rw [← Int.add_emod_right, Int.emod_eq_of_lt (by omega) (by omega)]

/-- **Numbers are read back.** -/
theorem integer?_integerOctets (n : Int) : integer? (integerOctets n) = some n := by
  obtain ⟨places, wide⟩ : ∃ places, width (n.natAbs + 1) 1 n = places + 1 :=
    Nat.exists_eq_add_of_le' (le_width _ 1 n)
  have fits := width_fits (fits_natAbs n)
  rw [wide] at fits
  have bits := bits_eq fits
  rw [Fits, half_succ] at fits
  rw [integerOctets, wide]
  generalize (n % (span (places + 1) : Int)).toNat = b at bits ⊢
  have positive := span_pos places
  have whole := span_succ places
  have below : b < 256 * span places := by omega
  have value := foldl_digits b (places + 1) 0
  rw [Nat.zero_mul, Nat.zero_add, whole, Nat.mod_eq_of_lt below, digits_succ] at value
  -- The first octet tells the sign: it is below 128 exactly where the number is not negative.
  have sign : (UInt8.ofNat (b / span places % 256)).toNat < 128 ↔ b < 128 * span places := by
    rw [toNat_digit, Nat.mod_eq_of_lt ((Nat.div_lt_iff_lt_mul positive).2 below),
      Nat.div_lt_iff_lt_mul positive]
  simp only [digits_succ, integer?, bigEndian, value, sign, List.length_cons, List.length_map,
    List.length_reverse, List.length_range, Option.some.injEq]
  split at bits <;> split <;> omega

/-- A number of 32 bits takes four octets at most. -/
theorem length_integerOctets_le {n : Int} (word : Text.Word32 n) :
    (integerOctets n).length ≤ 4 := by
  have fits : Fits 4 n := by
    have room : half 4 = 2147483648 := rfl
    rw [Fits, room]
    obtain ⟨low, high⟩ := word
    omega
  rw [integerOctets, List.length_map, List.length_reverse, List.length_range]
  exact width_le fits (by decide)

/-! ## Parts -/

/-- A part is read back, whatever comes after it. -/
theorem readPart_part {tag : UInt8} {content : Octets} (short : content.length < 128)
    (rest : Octets) : readPart tag (part tag content ++ rest) = some (content, rest) := by
  have size : (UInt8.ofNat content.length).toNat = content.length :=
    UInt8.toNat_ofNat_of_lt' (Nat.lt_trans short (by decide))
  simp [part, length, readPart, short, size]

theorem length_part {tag : UInt8} {content : Octets} (short : content.length < 128) :
    (part tag content).length = content.length + 2 := by
  simp [part, length, short]

/-- **The value of the control is read back.** -/
theorem pagedValue?_pagedValue {size : Int} {cookie : Octets}
    (short : (integerOctets size).length + cookie.length + 4 < 128) :
    pagedValue? (pagedValue size cookie) = some (size, cookie) := by
  have shortSize : (integerOctets size).length < 128 := by omega
  have shortCookie : cookie.length < 128 := by omega
  have whole : (part 0x02 (integerOctets size) ++ part 0x04 cookie).length < 128 := by
    rw [List.length_append, length_part shortSize, length_part shortCookie]
    omega
  have outer : readPart 0x30 (part 0x30 _ ++ []) = _ := readPart_part whole []
  have last : readPart 0x04 (part 0x04 cookie ++ []) = _ := readPart_part shortCookie []
  rw [List.append_nil] at outer last
  simp [pagedValue?, pagedValue, outer, readPart_part shortSize, last, integer?_integerOctets]

/-- Where there is no cookie yet, a page of 32 bits is read back. -/
theorem pagedValue?_ofWord {size : Int} (word : Text.Word32 size) :
    pagedValue? (pagedValue size []) = some (size, []) := by
  have octets := length_integerOctets_le word
  exact pagedValue?_pagedValue (by rw [List.length_nil]; omega)

end ManagedLdap.Ber
