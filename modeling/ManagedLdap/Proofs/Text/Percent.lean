/-
# ManagedLdap.Proofs.Text.Percent -- percent-encoded text is read back

A writer of addresses has a choice: an octet that an unreserved character stands for may be
written as that character or escaped, and the digits of an escape may be of either case, each on
its own.  `PercentWritten` holds of all that may come of it.  Reading is forgiving of escapes that
are none, but of what was written it finds every octet again and no other
(`percentOctets_of_written`), so that a text comes back as it was.
-/
import ManagedLdap.Text.Percent
import ManagedLdap.Proofs.Text.Utf8

namespace ManagedLdap.Text

set_option autoImplicit false

/-! ## Writing -/

/-- The characters that mean nothing but themselves wherever they stand in an address. -/
def isUnreserved (c : Char) : Bool :=
  c.isAlphanum || c == '-' || c == '.' || c == '_' || c == '~'

/-- A hexadecimal digit of this value, of either case. -/
def IsHexDigit (c : Char) (value : Nat) : Prop := c = hexDigit value ∨ c = upperHexDigit value

/-- Octets as an address may hold them: each escaped, or as the unreserved character that it
stands for. -/
inductive PercentWritten : Octets → List Char → Prop
  | nil : PercentWritten [] []
  | plain {c : Char} {octets : Octets} {cs : List Char} (unreserved : isUnreserved c = true)
      (rest : PercentWritten octets cs) : PercentWritten (UInt8.ofNat c.toNat :: octets) (c :: cs)
  | escape {b : UInt8} {high low : Char} {octets : Octets} {cs : List Char}
      (highDigit : IsHexDigit high (b.toNat / 16)) (lowDigit : IsHexDigit low (b.toNat % 16))
      (rest : PercentWritten octets cs) : PercentWritten (b :: octets) ('%' :: high :: low :: cs)

/-! ## Characters -/

theorem isUnreserved_of_isAlphanum {c : Char} (letter : c.isAlphanum = true) :
    isUnreserved c = true := by
  simp [isUnreserved, letter]

theorem ne_of_isUnreserved {c d : Char} (unreserved : isUnreserved c = true)
    (reserved : isUnreserved d = false) : c ≠ d := by
  rintro rfl
  exact absurd unreserved (Bool.eq_false_iff.1 reserved)

/-- The unreserved characters are printed ones of ASCII. -/
theorem range_of_isUnreserved {c : Char} (unreserved : isUnreserved c = true) :
    0x2D ≤ c.toNat ∧ c.toNat ≤ 0x7E := by
  unfold isUnreserved Char.isAlphanum Char.isAlpha Char.isUpper Char.isLower Char.isDigit
    at unreserved
  simp only [Bool.or_eq_true, Bool.and_eq_true, decide_eq_true_eq, beq_iff_eq,
    UInt32.le_iff_toNat_le, ge_iff_le] at unreserved
  change ((((((65 ≤ c.toNat ∧ c.toNat ≤ 90) ∨ (97 ≤ c.toNat ∧ c.toNat ≤ 122)) ∨
    (48 ≤ c.toNat ∧ c.toNat ≤ 57)) ∨ c = '-') ∨ c = '.') ∨ c = '_') ∨ c = '~' at unreserved
  rcases unreserved with (((((upper | lower) | digit) | rfl) | rfl) | rfl) | rfl
  · omega
  · omega
  · omega
  all_goals decide

namespace IsHexDigit

variable {c : Char} {value : Nat}

/-- A digit is read as the value it was written for. -/
theorem hexDigit?_eq (digit : IsHexDigit c value) (small : value < 16) :
    hexDigit? c = some value := by
  have read : ∀ n < 16, hexDigit? (hexDigit n) = some n ∧ hexDigit? (upperHexDigit n) = some n := by
    decide
  rcases digit with rfl | rfl
  · exact (read value small).1
  · exact (read value small).2

theorem isAlphanum (digit : IsHexDigit c value) (small : value < 16) : c.isAlphanum = true := by
  have letters : ∀ n < 16,
      (hexDigit n).isAlphanum = true ∧ (upperHexDigit n).isAlphanum = true := by decide
  rcases digit with rfl | rfl
  · exact (letters value small).1
  · exact (letters value small).2

end IsHexDigit

theorem high_lt (b : UInt8) : b.toNat / 16 < 16 := by
  have := b.toNat_lt
  omega

theorem low_lt (b : UInt8) : b.toNat % 16 < 16 := Nat.mod_lt _ (by decide)

namespace PercentWritten

variable {octets : Octets} {cs : List Char}

/-- Nothing else stands in what was written. -/
theorem chars (written : PercentWritten octets cs) :
    ∀ c ∈ cs, isUnreserved c = true ∨ c = '%' := by
  induction written with
  | nil => exact List.forall_mem_nil _
  | plain unreserved _ ih => exact List.forall_mem_cons.2 ⟨.inl unreserved, ih⟩
  | @escape b _ _ _ _ highDigit lowDigit _ ih =>
      refine List.forall_mem_cons.2 ⟨.inr rfl, List.forall_mem_cons.2 ⟨.inl ?_,
        List.forall_mem_cons.2 ⟨.inl ?_, ih⟩⟩⟩
      · exact isUnreserved_of_isAlphanum (highDigit.isAlphanum (high_lt b))
      · exact isUnreserved_of_isAlphanum (lowDigit.isAlphanum (low_lt b))

/-- An octet that no unreserved character stands for is escaped. -/
theorem escaped (written : PercentWritten octets cs) {b : UInt8} (among : b ∈ octets)
    (reserved : ∀ c, isUnreserved c = true → UInt8.ofNat c.toNat ≠ b) :
    ∃ high low, IsHexDigit high (b.toNat / 16) ∧ IsHexDigit low (b.toNat % 16) ∧
      ['%', high, low] <:+: cs := by
  induction written with
  | nil => cases among
  | @plain c _ cs unreserved _ ih =>
      obtain rfl | later := List.mem_cons.1 among
      · exact absurd rfl (reserved c unreserved)
      · obtain ⟨high, low, highDigit, lowDigit, within⟩ := ih later
        exact ⟨high, low, highDigit, lowDigit, within.trans (List.suffix_cons c cs).isInfix⟩
  | @escape b' high low _ cs highDigit lowDigit _ ih =>
      obtain rfl | later := List.mem_cons.1 among
      · exact ⟨high, low, highDigit, lowDigit, (List.prefix_append ['%', high, low] cs).isInfix⟩
      · obtain ⟨high', low', highDigit', lowDigit', within⟩ := ih later
        exact ⟨high', low', highDigit', lowDigit',
          within.trans (List.suffix_append ['%', high, low] cs).isInfix⟩

end PercentWritten

/-! ## Reading -/

/-- An octet that an unreserved character stands for. -/
theorem utf8EncodeChar_of_isUnreserved {c : Char} (unreserved : isUnreserved c = true) :
    String.utf8EncodeChar c = [UInt8.ofNat c.toNat] := by
  have range := range_of_isUnreserved unreserved
  have one : c.val.toNat ≤ 127 := by
    change c.toNat ≤ 127
    omega
  rw [String.utf8EncodeChar, if_pos one]
  rfl

/-- What was written is read as the octets it was written for. -/
theorem percentOctets_of_written {octets : Octets} {cs : List Char}
    (written : PercentWritten octets cs) : percentOctets cs = octets := by
  induction written with
  | nil => rfl
  | @plain c _ cs unreserved _ ih =>
      have noEscape : c ≠ '%' := ne_of_isUnreserved unreserved (by decide)
      rw [percentOctets.eq_3 _ _ (fun _ _ _ here _ => noEscape here), ih,
        utf8EncodeChar_of_isUnreserved unreserved]
      rfl
  | @escape b high low _ cs highDigit lowDigit _ ih =>
      have whole : b.toNat / 16 * 16 + b.toNat % 16 = b.toNat := by omega
      rw [percentOctets, highDigit.hexDigit?_eq (high_lt b), lowDigit.hexDigit?_eq (low_lt b)]
      simp only [ih, whole, UInt8.ofNat_toNat]

/-- **A text that was written percent-encoded is read back.** -/
theorem percentDecode_of_written {s written : String}
    (spelt : PercentWritten (encodeUtf8 s) written.toList) : percentDecode written = .ok s := by
  rw [percentDecode, percentOctets_of_written spelt, decodeUtf8_encodeUtf8]

end ManagedLdap.Text
