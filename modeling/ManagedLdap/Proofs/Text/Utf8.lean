/-
# ManagedLdap.Proofs.Text.Utf8 -- text survives its encoding

A value that is escaped into a filter, or written as a control or an attribute, goes over
the wire as octets.  Whoever reads the octets back must find the same text.  The decoder is
an automaton that also refuses overlong forms and surrogates, so each refusal has to be
ruled out for what the encoder writes: `decodeFrom_char` does so for one character, whatever
octets follow it, and `decodeUtf8_encodeUtf8` goes over the text with it.
-/
import ManagedLdap.Text.Octets

namespace ManagedLdap.Text

set_option autoImplicit false

/-! ## Steps of the decoder -/

theorem decodeFrom_ascii {b : UInt8} (h : b.toNat < 0x80) (start : Nat) (rest : Octets) :
    decodeFrom start .boundary (b :: rest) =
      (decodeFrom (start + 1) .boundary rest).map (Char.ofNat b.toNat :: ·) := by
  rw [decodeFrom, if_pos h]

theorem decodeFrom_lead {b : UInt8} {missing lo hi bits : Nat}
    (h : leadOctet? b.toNat = some (missing, lo, hi, bits)) (start : Nat) (rest : Octets) :
    decodeFrom start .boundary (b :: rest) =
      decodeFrom start (.inside 1 missing lo hi bits) rest := by
  have above : ¬ b.toNat < 0x80 := by
    intro below
    have : leadOctet? b.toNat = none := by
      unfold leadOctet?
      repeat rw [if_neg (by omega)]
    rw [this] at h
    cases h
  rw [decodeFrom, if_neg above, h]

/-- An octet in its range, with further ones to come. -/
theorem decodeFrom_more {b : UInt8} {lo hi : Nat} (h : lo ≤ b.toNat ∧ b.toNat ≤ hi)
    (start read missing bits : Nat) (rest : Octets) :
    decodeFrom start (.inside read (missing + 2) lo hi bits) (b :: rest) =
      decodeFrom start (.inside (read + 1) (missing + 1) 0x80 0xBF (bits * 64 + b.toNat % 64))
        rest := by
  have further : ¬ missing + 2 ≤ 1 := by omega
  rw [decodeFrom, if_pos h, if_neg further]
  rfl

/-- The last octet of a character, in its range. -/
theorem decodeFrom_last {b : UInt8} {lo hi : Nat} (h : lo ≤ b.toNat ∧ b.toNat ≤ hi)
    (start read bits : Nat) (rest : Octets) :
    decodeFrom start (.inside read 1 lo hi bits) (b :: rest) =
      (decodeFrom (start + read + 1) .boundary rest).map
        (Char.ofNat (bits * 64 + b.toNat % 64) :: ·) := by
  rw [decodeFrom, if_pos h, if_pos (Nat.le_refl 1)]

/-! ## First octets

The first octet carries the high bits and names the range of the second one, which keeps
out overlong forms and surrogates.  What the encoder writes lies in that range. -/

theorem leadOctet?_two {v : Nat} (low : 0x7F < v) (high : v ≤ 0x7FF) :
    leadOctet? (v / 64 % 32 + 192) = some (1, 0x80, 0xBF, v / 64) := by
  have range : 0xC2 ≤ v / 64 % 32 + 192 ∧ v / 64 % 32 + 192 ≤ 0xDF := by omega
  have bits : v / 64 % 32 + 192 - 0xC0 = v / 64 := by omega
  rw [leadOctet?, if_pos range, bits]

theorem leadOctet?_three {v : Nat} (low : 0x7FF < v) (high : v ≤ 0xFFFF)
    (valid : v.isValidChar) :
    ∃ lo hi, leadOctet? (v / 4096 % 16 + 224) = some (2, lo, hi, v / 4096) ∧
      lo ≤ v / 64 % 64 + 128 ∧ v / 64 % 64 + 128 ≤ hi := by
  have no_two : ¬ (0xC2 ≤ v / 4096 % 16 + 224 ∧ v / 4096 % 16 + 224 ≤ 0xDF) := by omega
  unfold leadOctet?
  rw [if_neg no_two]
  by_cases first : v / 4096 % 16 + 224 = 0xE0
  · have bits : v / 4096 = 0 := by omega
    rw [if_pos first, bits]
    exact ⟨0xA0, 0xBF, rfl, by omega, by omega⟩
  rw [if_neg first]
  by_cases surrogates : v / 4096 % 16 + 224 = 0xED
  · have bits : v / 4096 = 0xD := by omega
    have below : v < 55296 := by
      rcases valid with below | ⟨above, -⟩ <;> omega
    rw [if_pos surrogates, bits]
    exact ⟨0x80, 0x9F, rfl, by omega, by omega⟩
  have range : 0xE1 ≤ v / 4096 % 16 + 224 ∧ v / 4096 % 16 + 224 ≤ 0xEF := by omega
  have bits : v / 4096 % 16 + 224 - 0xE0 = v / 4096 := by omega
  rw [if_neg surrogates, if_pos range, bits]
  exact ⟨0x80, 0xBF, rfl, by omega, by omega⟩

theorem leadOctet?_four {v : Nat} (low : 0xFFFF < v) (valid : v.isValidChar) :
    ∃ lo hi, leadOctet? (v / 262144 % 8 + 240) = some (3, lo, hi, v / 262144) ∧
      lo ≤ v / 4096 % 64 + 128 ∧ v / 4096 % 64 + 128 ≤ hi := by
  have high : v < 1114112 := by
    rcases valid with below | ⟨-, below⟩ <;> omega
  have no_shorter : ¬ (0xC2 ≤ v / 262144 % 8 + 240 ∧ v / 262144 % 8 + 240 ≤ 0xDF) ∧
      ¬ v / 262144 % 8 + 240 = 0xE0 ∧ ¬ v / 262144 % 8 + 240 = 0xED ∧
      ¬ (0xE1 ≤ v / 262144 % 8 + 240 ∧ v / 262144 % 8 + 240 ≤ 0xEF) := by omega
  obtain ⟨no_two, no_e0, no_ed, no_three⟩ := no_shorter
  unfold leadOctet?
  rw [if_neg no_two, if_neg no_e0, if_neg no_ed, if_neg no_three]
  by_cases first : v / 262144 % 8 + 240 = 0xF0
  · have bits : v / 262144 = 0 := by omega
    rw [if_pos first, bits]
    exact ⟨0x90, 0xBF, rfl, by omega, by omega⟩
  rw [if_neg first]
  by_cases middle : 0xF1 ≤ v / 262144 % 8 + 240 ∧ v / 262144 % 8 + 240 ≤ 0xF3
  · have bits : v / 262144 % 8 + 240 - 0xF0 = v / 262144 := by omega
    rw [if_pos middle, bits]
    exact ⟨0x80, 0xBF, rfl, by omega, by omega⟩
  have last : v / 262144 % 8 + 240 = 0xF4 := by omega
  have bits : v / 262144 = 4 := by omega
  rw [if_neg middle, if_pos last, bits]
  exact ⟨0x80, 0x8F, rfl, by omega, by omega⟩

/-! ## One character, then a text -/

/-- The value of an octet that was written from a number below 256. -/
theorem toNat_octet {n : Nat} (h : n < 256) : (UInt8.ofNat n).toNat = n := by
  rw [UInt8.toNat_ofNat']
  exact Nat.mod_eq_of_lt h

/-- The range of every octet after the second. -/
theorem trailing_octet (n : Nat) :
    0x80 ≤ (UInt8.ofNat (n % 64 + 128)).toNat ∧ (UInt8.ofNat (n % 64 + 128)).toNat ≤ 0xBF := by
  rw [toNat_octet (by omega)]
  omega

/-- The bits an octet after the first carries. -/
theorem trailing_bits (n : Nat) : (UInt8.ofNat (n % 64 + 128)).toNat % 64 = n % 64 := by
  rw [toNat_octet (by omega)]
  omega

/-- The decoder reads back an encoded character and goes on after it. -/
theorem decodeFrom_char (start : Nat) (c : Char) (rest : Octets) :
    decodeFrom start .boundary (String.utf8EncodeChar c ++ rest) =
      (decodeFrom (start + (String.utf8EncodeChar c).length) .boundary rest).map (c :: ·) := by
  have valid : c.toNat.isValidChar := c.valid
  -- The four lengths of an encoding; the bits that were read add up to the character.
  have read : ∀ n, n = c.toNat → Char.ofNat n = c := by
    intro n h
    rw [h, Char.ofNat_toNat]
  unfold String.utf8EncodeChar
  change c.val.toNat.isValidChar at valid
  change ∀ n, n = c.val.toNat → Char.ofNat n = c at read
  generalize c.val.toNat = v at valid read
  by_cases one : v ≤ 127
  · simp only [if_pos one, List.cons_append, List.nil_append, List.length_cons, List.length_nil]
    have value : (UInt8.ofNat v).toNat = v := toNat_octet (by omega)
    rw [decodeFrom_ascii (by omega), value, read v rfl]
  by_cases two : v ≤ 2047
  · simp only [if_neg one, if_pos two, List.cons_append, List.nil_append, List.length_cons,
      List.length_nil]
    have lead : leadOctet? (UInt8.ofNat (v / 64 % 32 + 192)).toNat =
        some (1, 0x80, 0xBF, v / 64) := by
      rw [toNat_octet (by omega)]
      exact leadOctet?_two (by omega) two
    rw [decodeFrom_lead lead, decodeFrom_last (trailing_octet v), trailing_bits,
      read _ (by omega)]
  by_cases three : v ≤ 65535
  · simp only [if_neg one, if_neg two, if_pos three, List.cons_append, List.nil_append,
      List.length_cons, List.length_nil]
    obtain ⟨lo, hi, lead, second⟩ := leadOctet?_three (by omega) three valid
    rw [← toNat_octet (n := v / 4096 % 16 + 224) (by omega)] at lead
    rw [← toNat_octet (n := v / 64 % 64 + 128) (by omega)] at second
    rw [decodeFrom_lead lead, decodeFrom_more second, trailing_bits,
      decodeFrom_last (trailing_octet v), trailing_bits, read _ (by omega)]
  · simp only [if_neg one, if_neg two, if_neg three, List.cons_append, List.nil_append,
      List.length_cons, List.length_nil]
    obtain ⟨lo, hi, lead, second⟩ := leadOctet?_four (by omega) valid
    have high : v < 1114112 := by
      rcases valid with below | ⟨-, below⟩ <;> omega
    rw [← toNat_octet (n := v / 262144 % 8 + 240) (by omega)] at lead
    rw [← toNat_octet (n := v / 4096 % 64 + 128) (by omega)] at second
    rw [decodeFrom_lead lead, decodeFrom_more second, trailing_bits,
      decodeFrom_more (trailing_octet (v / 64)), trailing_bits,
      decodeFrom_last (trailing_octet v), trailing_bits, read _ (by omega)]

/-- The octets of a text are read back as that text. -/
theorem decodeFrom_chars (start : Nat) (cs : List Char) :
    decodeFrom start .boundary (cs.flatMap String.utf8EncodeChar) = .ok cs := by
  induction cs generalizing start with
  | nil => rfl
  | cons c cs ih =>
      rw [List.flatMap_cons, decodeFrom_char, ih]
      rfl

theorem decodeUtf8_encodeUtf8 (s : String) : decodeUtf8 (encodeUtf8 s) = .ok s := by
  rw [decodeUtf8, encodeUtf8, decodeFrom_chars]
  exact congrArg Except.ok String.ofList_toList

/-- The octets of a text are UTF-8, and they are the octets of no other text. -/
theorem decodeUtf8?_encodeUtf8 (s : String) : decodeUtf8? (encodeUtf8 s) = some s := by
  rw [decodeUtf8?, decodeUtf8_encodeUtf8]
  rfl

end ManagedLdap.Text
