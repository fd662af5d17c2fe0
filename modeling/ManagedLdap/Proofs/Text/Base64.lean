/-
# ManagedLdap.Proofs.Text.Base64 -- what the Base64 form of octets is

The encoder goes over the octets three at a time and says letter by letter which bits go where.
The standard says it once for all: the bits of the octets, filled up with zeros, are cut into
groups of six, each group is written by its letter, and `=` fills the text up to groups of four.
`Base64 octets text` is that, without the groups of three, and `base64Chars_standard` says that the
encoder writes it.  That it can be undone, `ofBase64?_base64`, rests on `=` being no letter.
-/
import Mathlib.Algebra.Group.Nat.Defs
import ManagedLdap.Text.Base64

namespace ManagedLdap.Text

set_option autoImplicit false

/-! ## The standard form -/

/-- The lowest bits of a number, as many as said, the highest of them first. -/
def bits : (width n : Nat) → List Bool
  | 0, _ => []
  | width + 1, n => bits width (n / 2) ++ [n % 2 == 1]

/-- The letters for six bits, in the order of their values. -/
def base64Alphabet : List Char :=
  "ABCDEFGHIJKLMNOPQRSTUVWXYZabcdefghijklmnopqrstuvwxyz0123456789+/".toList

/-- The standard padded Base64 form of octets: their bits, filled up with zeros to groups of six,
by the letters of the groups, filled up with `=` to groups of four letters. -/
def Base64 (octets : Octets) (text : List Char) : Prop :=
  ∃ (groups : List Nat) (letters : List Char) (zeros padding : Nat),
    groups.map (base64Alphabet[·]?) = letters.map some ∧
    groups.flatMap (bits 6) =
      octets.flatMap (fun b => bits 8 b.toNat) ++ List.replicate zeros false ∧ zeros < 6 ∧
    text = letters ++ List.replicate padding '=' ∧ padding < 4 ∧ text.length % 4 = 0

/-- Bits are those of the part in front and those of the part behind. -/
theorem bits_add (front back n : Nat) :
    bits (front + back) n = bits front (n / 2 ^ back) ++ bits back (n % 2 ^ back) := by
  induction back generalizing n with
  | zero => simp [bits]
  | succ back ih =>
      have half : n / 2 / 2 ^ back = n / 2 ^ (back + 1) := by
        rw [Nat.div_div_eq_div_mul, Nat.pow_succ']
      have rest : n % 2 ^ (back + 1) / 2 = n / 2 % 2 ^ back := by
        rw [Nat.pow_succ', Nat.mod_mul_right_div_self]
      have last : n % 2 ^ (back + 1) % 2 = n % 2 := by
        rw [Nat.pow_succ', Nat.mod_mul_right_mod]
      rw [← Nat.add_assoc, bits, ih, bits, half, rest, last, List.append_assoc]

theorem bits_join (front : Nat) {back high low : Nat} (small : low < 2 ^ back) :
    bits (front + back) (high * 2 ^ back + low) = bits front high ++ bits back low := by
  have above : (high * 2 ^ back + low) / 2 ^ back = high := by
    rw [Nat.mul_comm, Nat.mul_add_div (Nat.two_pow_pos back), Nat.div_eq_of_lt small, Nat.add_zero]
  have below : (high * 2 ^ back + low) % 2 ^ back = low := by
    rw [Nat.mul_comm, Nat.mul_add_mod, Nat.mod_eq_of_lt small]
  rw [bits_add, above, below]

/-- Bits that are filled up with zeros. -/
theorem bits_fill (front back high : Nat) :
    bits (front + back) (high * 2 ^ back) = bits front high ++ bits back 0 := by
  rw [← bits_join front (Nat.two_pow_pos back), Nat.add_zero]

/-! ## What the encoder writes -/

theorem base64Alphabet_getElem? : ∀ n < 64, base64Alphabet[n]? = some (base64Letter n) := by
  decide

section

variable (a b c : UInt8)

/-- The six bits of the letters for the first, the second and the third octet of a group. -/
theorem bits_first : bits 8 a.toNat = bits 6 (a.toNat / 4) ++ bits 2 (a.toNat % 4) :=
  bits_add 6 2 a.toNat

theorem bits_second : bits 6 (a.toNat % 4 * 16 + b.toNat / 16) ++ bits 4 (b.toNat % 16) =
    bits 2 (a.toNat % 4) ++ bits 8 b.toNat := by
  have small : b.toNat / 16 < 2 ^ 4 := by
    have := b.toNat_lt
    omega
  have joined : bits 6 (a.toNat % 4 * 16 + b.toNat / 16) =
      bits 2 (a.toNat % 4) ++ bits 4 (b.toNat / 16) := bits_join 2 small
  have parted : bits 8 b.toNat = bits 4 (b.toNat / 16) ++ bits 4 (b.toNat % 16) :=
    bits_add 4 4 b.toNat
  rw [joined, parted, List.append_assoc]

theorem bits_third : bits 6 (b.toNat % 16 * 4 + c.toNat / 64) ++ bits 6 (c.toNat % 64) =
    bits 4 (b.toNat % 16) ++ bits 8 c.toNat := by
  have small : c.toNat / 64 < 2 ^ 2 := by
    have := c.toNat_lt
    omega
  have joined : bits 6 (b.toNat % 16 * 4 + c.toNat / 64) =
      bits 4 (b.toNat % 16) ++ bits 2 (c.toNat / 64) := bits_join 4 small
  have parted : bits 8 c.toNat = bits 2 (c.toNat / 64) ++ bits 6 (c.toNat % 64) :=
    bits_add 2 6 c.toNat
  rw [joined, parted, List.append_assoc]

end

/-- What the encoder writes, by the groups of six bits that stand for the letters. -/
theorem base64Chars_groups (octets : Octets) :
    ∃ (groups : List Nat) (zeros padding : Nat),
      (∀ n ∈ groups, n < 64) ∧
      groups.flatMap (bits 6) =
        octets.flatMap (fun b => bits 8 b.toNat) ++ List.replicate zeros false ∧ zeros < 6 ∧
      base64Chars octets = groups.map base64Letter ++ List.replicate padding '=' ∧ padding < 4 ∧
      (groups.length + padding) % 4 = 0 := by
  induction octets using base64Chars.induct with
  | case1 => exact ⟨[], 0, 0, by simp, rfl, by decide, rfl, by decide, rfl⟩
  | case2 a =>
      have high := a.toNat_lt
      have zeros : bits 6 (a.toNat % 4 * 16) = bits 2 (a.toNat % 4) ++ bits 4 0 :=
        bits_fill 2 4 (a.toNat % 4)
      refine ⟨[a.toNat / 4, a.toNat % 4 * 16], 4, 2, ?_, ?_, by decide, rfl, by decide, by simp⟩
      · simp only [List.forall_mem_cons]
        exact ⟨by omega, by omega, by simp⟩
      · calc [a.toNat / 4, a.toNat % 4 * 16].flatMap (bits 6)
          _ = bits 6 (a.toNat / 4) ++ bits 2 (a.toNat % 4) ++ bits 4 0 := by simp [zeros]
          _ = bits 8 a.toNat ++ bits 4 0 := by rw [bits_first]
          _ = [a].flatMap (fun b => bits 8 b.toNat) ++ List.replicate 4 false := by simp [bits]
  | case3 a b =>
      have highA := a.toNat_lt
      have highB := b.toNat_lt
      have zeros : bits 6 (b.toNat % 16 * 4) = bits 4 (b.toNat % 16) ++ bits 2 0 :=
        bits_fill 4 2 (b.toNat % 16)
      refine ⟨[a.toNat / 4, a.toNat % 4 * 16 + b.toNat / 16, b.toNat % 16 * 4], 2, 1, ?_, ?_,
        by decide, rfl, by decide, by simp⟩
      · simp only [List.forall_mem_cons]
        exact ⟨by omega, by omega, by omega, by simp⟩
      · calc [a.toNat / 4, a.toNat % 4 * 16 + b.toNat / 16, b.toNat % 16 * 4].flatMap (bits 6)
          _ = bits 6 (a.toNat / 4) ++ (bits 6 (a.toNat % 4 * 16 + b.toNat / 16) ++
                bits 4 (b.toNat % 16)) ++ bits 2 0 := by simp [zeros]
          _ = bits 8 a.toNat ++ bits 8 b.toNat ++ bits 2 0 := by simp [bits_first, bits_second]
          _ = [a, b].flatMap (fun b => bits 8 b.toNat) ++ List.replicate 2 false := by simp [bits]
  | case4 a b c rest ih =>
      obtain ⟨groups, zeros, padding, small, same, few, text, short, whole⟩ := ih
      have highA := a.toNat_lt
      have highB := b.toNat_lt
      have highC := c.toNat_lt
      refine ⟨a.toNat / 4 :: (a.toNat % 4 * 16 + b.toNat / 16) ::
        (b.toNat % 16 * 4 + c.toNat / 64) :: c.toNat % 64 :: groups, zeros, padding, ?_, ?_, few, ?_,
        short, ?_⟩
      · simp only [List.forall_mem_cons]
        exact ⟨by omega, by omega, by omega, by omega, small⟩
      · have triple : bits 6 (a.toNat / 4) ++ (bits 6 (a.toNat % 4 * 16 + b.toNat / 16) ++
            (bits 6 (b.toNat % 16 * 4 + c.toNat / 64) ++ bits 6 (c.toNat % 64))) =
            bits 8 a.toNat ++ (bits 8 b.toNat ++ bits 8 c.toNat) := by
          rw [bits_third, ← List.append_assoc (bits 6 (a.toNat % 4 * 16 + _)), bits_second,
            bits_first a, List.append_assoc, List.append_assoc]
        simp only [List.flatMap_cons, same, ← List.append_assoc] at triple ⊢
        rw [triple]
      · rw [base64Chars, text]
        rfl
      · simp only [List.length_cons]
        omega

/-- The encoder writes the standard form. -/
theorem base64Chars_standard (octets : Octets) : Base64 octets (base64Chars octets) := by
  obtain ⟨groups, zeros, padding, small, same, few, text, short, whole⟩ := base64Chars_groups octets
  refine ⟨groups, groups.map base64Letter, zeros, padding, ?_, same, few, text, short, ?_⟩
  · rw [List.map_map]
    exact List.map_congr_left fun n among => base64Alphabet_getElem? n (small n among)
  · rw [text, List.length_append, List.length_map, List.length_replicate, whole]

/-! ## Reading it back -/

theorem base64Value?_base64Letter : ∀ n < 64, base64Value? (base64Letter n) = some n := by
  decide

/-- The sign that fills up is no letter, so that no group of letters is taken for a filled up one. -/
theorem base64Letter_ne : ∀ n < 64, base64Letter n ≠ '=' := by
  decide

/-- Four letters that are not filled up are three octets, whatever follows. -/
theorem ofBase64Chars_cons {a b c d : Char} {rest : List Char} (letter : d ≠ '=') :
    ofBase64Chars (a :: b :: c :: d :: rest) = do
      let a ← base64Value? a
      let b ← base64Value? b
      let c ← base64Value? c
      let d ← base64Value? d
      let tail ← ofBase64Chars rest
      return UInt8.ofNat (a * 4 + b / 16) :: UInt8.ofNat (b % 16 * 16 + c / 4) ::
        UInt8.ofNat (c % 4 * 64 + d) :: tail := by
  rw [ofBase64Chars]
  · rintro - rfl
    contradiction
  · rintro rfl
    contradiction

theorem ofBase64Chars_base64Chars (octets : Octets) :
    ofBase64Chars (base64Chars octets) = some octets := by
  induction octets using base64Chars.induct with
  | case1 => rfl
  | case2 a =>
      have high := a.toNat_lt
      have first := base64Value?_base64Letter (a.toNat / 4) (by omega)
      have second := base64Value?_base64Letter (a.toNat % 4 * 16) (by omega)
      have whole : a.toNat / 4 * 4 + a.toNat % 4 * 16 / 16 = a.toNat := by omega
      simp only [base64Chars, ofBase64Chars, first, second, whole, Option.bind_eq_bind,
        Option.bind_some, Option.pure_def, UInt8.ofNat_toNat]
  | case3 a b =>
      have highA := a.toNat_lt
      have highB := b.toNat_lt
      have first := base64Value?_base64Letter (a.toNat / 4) (by omega)
      have second := base64Value?_base64Letter (a.toNat % 4 * 16 + b.toNat / 16) (by omega)
      have third := base64Value?_base64Letter (b.toNat % 16 * 4) (by omega)
      have noSign := base64Letter_ne (b.toNat % 16 * 4) (by omega)
      have wholeA : a.toNat / 4 * 4 + (a.toNat % 4 * 16 + b.toNat / 16) / 16 = a.toNat := by omega
      have wholeB : (a.toNat % 4 * 16 + b.toNat / 16) % 16 * 16 + b.toNat % 16 * 4 / 4 = b.toNat := by
        omega
      simp only [base64Chars, ofBase64Chars, first, second, third, wholeA, wholeB,
        Option.bind_eq_bind, Option.bind_some, Option.pure_def, UInt8.ofNat_toNat]
  | case4 a b c rest ih =>
      have highA := a.toNat_lt
      have highB := b.toNat_lt
      have highC := c.toNat_lt
      have first := base64Value?_base64Letter (a.toNat / 4) (by omega)
      have second := base64Value?_base64Letter (a.toNat % 4 * 16 + b.toNat / 16) (by omega)
      have third := base64Value?_base64Letter (b.toNat % 16 * 4 + c.toNat / 64) (by omega)
      have fourth := base64Value?_base64Letter (c.toNat % 64) (by omega)
      have noSign := base64Letter_ne (c.toNat % 64) (by omega)
      have wholeA : a.toNat / 4 * 4 + (a.toNat % 4 * 16 + b.toNat / 16) / 16 = a.toNat := by omega
      have wholeB : (a.toNat % 4 * 16 + b.toNat / 16) % 16 * 16 +
          (b.toNat % 16 * 4 + c.toNat / 64) / 4 = b.toNat := by omega
      have wholeC : (b.toNat % 16 * 4 + c.toNat / 64) % 4 * 64 + c.toNat % 64 = c.toNat := by omega
      rw [base64Chars, ofBase64Chars_cons noSign]
      simp only [first, second, third, fourth, wholeA, wholeB, wholeC, ih, Option.bind_eq_bind,
        Option.bind_some, Option.pure_def, UInt8.ofNat_toNat]

/-- The octets can be told from their Base64 text. -/
theorem ofBase64?_base64 (octets : Octets) : ofBase64? (base64 octets) = some octets := by
  rw [ofBase64?, base64, String.toList_ofList, ofBase64Chars_base64Chars]

end ManagedLdap.Text
