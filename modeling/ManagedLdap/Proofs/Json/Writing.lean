/-
# ManagedLdap.Proofs.Json.Writing -- what is written is a text of the value

The writer gives one text of a value: without blanks, whole numbers in decimals, and a character
of a literal for itself wherever it can stand so.  That text is one of those the grammar allows
(`spells_render`), so it is read back.
-/
import ManagedLdap.Json.Printer
import ManagedLdap.Proofs.Json.Reading

namespace ManagedLdap.Json

set_option autoImplicit false

/-! ## Literals -/

/-- The code points of characters are no surrogates, so each of them is a character again. -/
theorem joinUnits_map_toNat (cs : List Char) : joinUnits (cs.map Char.toNat) = some cs := by
  have alone (c : Char) : isHighHalf c.toNat = false ∧ isLowHalf c.toNat = false := by
    have scalar : c.toNat < 0xD800 ∨ 0xDFFF < c.toNat := c.valid.imp id And.left
    simp only [isHighHalf, isLowHalf, Bool.and_eq_false_iff, decide_eq_false_iff_not]
    omega
  induction cs with
  | nil => rfl
  | cons c cs ih =>
      obtain ⟨high, low⟩ := alone c
      cases cs with
      | nil => simp [joinUnits, high, low]
      | cons d cs =>
          rw [List.map_cons] at ih
          rw [List.map_cons, List.map_cons, joinUnits, high, low, ih]
          simp

/-- A control character is written by its two hexadecimal digits. -/
theorem hex4?_control : ∀ n < 0x20,
    hex4? '0' '0' (Text.hexDigit (n / 16)) (Text.hexDigit (n % 16)) = some n := by
  decide

theorem spellsUnits_writeChar (c : Char) {units : List Nat} {cs : List Char}
    (others : SpellsUnits units cs) : SpellsUnits (c.toNat :: units) (writeChar c ++ cs) := by
  unfold writeChar
  split
  · next quote => subst quote; exact .short (by decide) others
  split
  · next slash => subst slash; exact .short (by decide) others
  split
  · next line => subst line; exact .short (by decide) others
  split
  · next carriage => subst carriage; exact .short (by decide) others
  split
  · next tab => subst tab; exact .short (by decide) others
  split
  · next back => subst back; exact .short (by decide) others
  split
  · next feed => subst feed; exact .short (by decide) others
  split
  · next control => exact .long (hex4?_control _ control) others
  · next quote slash _ _ _ _ _ printed => exact .plain (Nat.not_lt.1 printed) quote slash others

theorem spellsLiteral_write (s : String) :
    SpellsLiteral (some s) (s.toList.flatMap writeChar ++ ['"']) := by
  refine ⟨s.toList.map Char.toNat, ?_, ?_⟩
  · induction s.toList with
    | nil => exact .close
    | cons c cs ih =>
        rw [List.flatMap_cons, List.append_assoc]
        exact spellsUnits_writeChar c ih
  · rw [joinUnits_map_toNat, Option.map_some, String.ofList_toList]

/-! ## Numbers -/

theorem Whole.concat {ds : List Char} (whole : Whole ds) (nonzero : ds ≠ ['0']) {d : Char}
    (digit : d.isDigit = true) : Whole (ds ++ [d]) := by
  cases whole with
  | zero => exact absurd rfl nonzero
  | digits first lead others =>
      refine .digits first lead ?_
      exact List.forall_mem_append.2 ⟨others, List.forall_mem_singleton.2 digit⟩

theorem isDigit_digitChar : ∀ n < 10, n.digitChar.isDigit = true ∧ (n.digitChar = '0' ↔ n = 0) := by
  decide

/-- The decimals of a number do not start with a zero that could be left out. -/
theorem whole_toDigits (n : Nat) : Whole (Nat.toDigits 10 n) := by
  induction n using Nat.strongRecOn with
  | _ n ih =>
      by_cases small : n < 10
      · obtain ⟨digit, zero⟩ := isDigit_digitChar n small
        rw [Nat.toDigits_of_lt_base small]
        by_cases none : n = 0
        · subst none
          exact .zero
        · exact .digits digit (mt zero.1 none) nofun
      · have large : 10 ≤ n := Nat.not_lt.1 small
        have front := ih (n / 10) (by omega)
        have nonzero : Nat.toDigits 10 (n / 10) ≠ ['0'] := by
          rw [Ne, ← front.eq_zero_iff, Nat.ofDigitChars_ten_toDigits]
          omega
        rw [Nat.toDigits_of_base_le (by decide) large]
        exact front.concat nonzero (isDigit_digitChar _ (Nat.mod_lt _ (by decide))).1

theorem spellsNumber_write (n : Int) : SpellsNumber (.whole n) (writeNumber (.whole n)) := by
  cases n with
  | ofNat n =>
      have digits : writeNumber (.whole (Int.ofNat n)) = Nat.toDigits 10 n := Nat.toList_repr
      have natural := SpellsNumber.natural (whole_toDigits n)
      rw [Nat.ofDigitChars_ten_toDigits] at natural
      rw [digits]
      exact natural
  | negSucc n =>
      have digits : writeNumber (.whole (Int.negSucc n)) = '-' :: Nat.toDigits 10 (n + 1) := by
        have text : toString (Int.negSucc n) = "-" ++ (n + 1).repr := rfl
        rw [writeNumber, text, String.toList_append, Nat.toList_repr]
        rfl
      have whole := whole_toDigits (n + 1)
      have nonzero : Nat.toDigits 10 (n + 1) ≠ ['0'] := by
        rw [Ne, ← whole.eq_zero_iff, Nat.ofDigitChars_ten_toDigits]
        omega
      have negative := SpellsNumber.negative whole nonzero
      rw [Nat.ofDigitChars_ten_toDigits] at negative
      rw [digits]
      exact negative

/-! ## Values -/

/-- The value is written as one of its texts. -/
def Writes (j : Json) : Prop := Spells j (write j)

theorem writes_text (s : String) : Writes (.text s) :=
  @Spells.string (some s) [] _ blanks_nil (spellsLiteral_write s)

theorem writes_whole (n : Int) : Writes (.whole n) :=
  .number blanks_nil (spellsNumber_write n)

theorem writes_natural (n : Nat) : Writes (.natural n) :=
  .number blanks_nil (spellsNumber_write n)

theorem writes_bool (b : Bool) : Writes (.bool b) := by
  cases b with
  | false => exact .isFalse blanks_nil
  | true => exact .isTrue blanks_nil

theorem spellsName_write (name : String) :
    SpellsName (some name) (writeLiteral (some name) ++ [':']) :=
  ⟨[], _, [], blanks_nil, spellsLiteral_write name, blanks_nil, rfl⟩

theorem spellsMembers_write {members : List (String × Json)} (some : members ≠ [])
    (all : ∀ m ∈ members, Writes m.2) :
    SpellsMembers (members.map fun m => (.some m.1, m.2))
      (writeMembers (members.map fun m => (.some m.1, m.2)) ++ ['\x7d']) := by
  induction members with
  | nil => exact absurd rfl some
  | cons m members ih =>
      obtain ⟨first, others⟩ := List.forall_mem_cons.1 all
      cases members with
      | nil =>
          have last := SpellsMembers.last (spellsName_write m.1) first blanks_nil
          simp only [List.map_cons, List.map_nil, writeMembers, List.append_assoc,
            List.cons_append, List.nil_append] at last ⊢
          exact last
      | cons next members =>
          have more := SpellsMembers.more (spellsName_write m.1) first blanks_nil
            (ih (List.cons_ne_nil _ _) others)
          simp only [List.map_cons, writeMembers, List.append_assoc, List.cons_append,
            List.nil_append] at more ⊢
          exact more

theorem writes_record {members : List (String × Json)} (all : ∀ m ∈ members, Writes m.2) :
    Writes (.record members) := by
  cases members with
  | nil => exact .emptyObject blanks_nil blanks_nil
  | cons m members => exact .object blanks_nil (spellsMembers_write (List.cons_ne_nil _ _) all)

theorem spells_render {j : Json} (writes : Writes j) : SpellsText j (render j) := by
  refine ⟨write j, [], writes, blanks_nil, ?_⟩
  rw [render, String.toList_ofList, List.append_nil]

end ManagedLdap.Json
