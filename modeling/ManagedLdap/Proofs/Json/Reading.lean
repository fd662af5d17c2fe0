/-
# ManagedLdap.Proofs.Json.Reading -- every text of a value is read as that value

The reader goes from the left and each of its parts leaves what it does not take, so each part of
the grammar is read in front of any rest.  Only a number has no end of its own: what follows must
not go on with it (`Stops goesOn`).  The reader also counts how deep it goes.  A value within
another one is shorter, so a depth that is not below the length of the text is enough for all
that is read within it, and `parse` starts with more than that.
-/
import Mathlib.Data.List.DropRight
import ManagedLdap.Proofs.Json.Grammar
import ManagedLdap.Proofs.Text.Decimal
import ManagedLdap.Proofs.Text.Runs

namespace ManagedLdap.Json

set_option autoImplicit false

open Text (Stops stops_nil stops_cons takeWhile_dropWhile_append)

variable {rest : List Char}

/-! ## Blanks -/

theorem isBlank_of_blanks {cs : List Char} (blank : Blanks cs) : ∀ c ∈ cs, isBlank c = true := by
  intro c among
  obtain rfl | rfl | rfl | rfl := blank c among <;> rfl

theorem blanks_nil : Blanks [] := nofun

theorem skipBlanks_append {blanks cs : List Char} (blank : Blanks blanks)
    (stops : Stops isBlank cs) : skipBlanks (blanks ++ cs) = cs :=
  (takeWhile_dropWhile_append (isBlank_of_blanks blank) stops).2

theorem skipBlanks_append_cons {blanks cs : List Char} {c : Char} (blank : Blanks blanks)
    (token : isBlank c = false) : skipBlanks (blanks ++ c :: cs) = c :: cs :=
  skipBlanks_append blank (stops_cons.2 token)

/-! ## Literals -/

theorem escaped?_of_mem : ∀ e ∈ escapes, escaped? e.1 = some e.2 ∧ e.1 ≠ 'u' := by
  decide

theorem readUnits_append {units : List Nat} {cs : List Char} (spelt : SpellsUnits units cs) :
    readUnits (cs ++ rest) = some (units, rest) := by
  induction spelt with
  | close => rfl
  | @plain c units cs printed quote slash _ ih =>
      have shown : ¬ (c = '\\' ∨ c.toNat < 0x20) := by
        rintro (escape | control)
        · exact slash escape
        · omega
      rw [List.cons_append, readUnits, if_neg shown, ih]
      · rfl
      · exact quote
      · exact fun _ _ _ _ _ escape _ => slash escape
      · exact fun _ _ escape _ => slash escape
  | @short letter c units cs stands _ ih =>
      obtain ⟨escape, short⟩ := escaped?_of_mem _ stands
      rw [List.cons_append, List.cons_append, readUnits, escape, ih]
      · rfl
      · exact fun _ _ _ _ _ long _ => short long
  | @long a b c d unit units cs value _ ih =>
      simp only [List.cons_append, readUnits, value, ih, Option.bind_eq_bind, Option.bind_some,
        Option.pure_def]

theorem readLiteral_append {s : Literal} {cs : List Char} (spelt : SpellsLiteral s cs) :
    readLiteral (cs ++ rest) = some (s, rest) := by
  obtain ⟨units, written, rfl⟩ := spelt
  rw [readLiteral, readUnits_append written]
  rfl

/-! ## Numbers -/

theorem ne_of_isDigit {c d : Char} (digit : c.isDigit = true) (other : d.isDigit = false) :
    c ≠ d := by
  rintro rfl
  rw [digit] at other
  cases other

/-- The characters that a number may go on with. -/
def goesOn (c : Char) : Bool := c.isDigit || c == '.' || c == 'e' || c == 'E'

theorem readDigits_append {ds : List Char} (all : ∀ c ∈ ds, c.isDigit = true)
    (stops : Stops Char.isDigit rest) : readDigits (ds ++ rest) = (ds, rest) := by
  obtain ⟨run, behind⟩ := takeWhile_dropWhile_append all stops
  rw [readDigits, run, behind]

theorem readWhole_append {ds : List Char} (whole : Whole ds) (stops : Stops Char.isDigit rest) :
    readWhole (ds ++ rest) = some (ds, rest) := by
  cases whole with
  | zero =>
      cases rest with
      | nil => rfl
      | cons c rest => simp [readWhole, stops_cons.1 stops]
  | @digits d ds first lead others =>
      have run := readDigits_append (List.forall_mem_cons.2 ⟨first, others⟩) stops
      unfold readWhole
      split
      · next same => exact absurd (List.cons.inj same).1 lead
      · rw [run]

theorem readFraction_append {fraction : List Char} (isFraction : Fraction fraction)
    (stops : Stops Char.isDigit rest) (point : Stops (· == '.') rest) :
    readFraction (fraction ++ rest) = some (fraction, rest) := by
  cases isFraction with
  | absent =>
      unfold readFraction
      split
      · next same =>
          rw [List.nil_append] at same
          rw [same] at point
          exact absurd (stops_cons.1 point) (by decide)
      · rfl
  | @digits ds some all =>
      obtain ⟨d, ds, rfl⟩ := List.exists_cons_of_ne_nil some
      rw [List.cons_append, readFraction, readDigits_append all stops]

theorem readExponent_append {exponent : List Char} (isExponent : Exponent exponent)
    (stops : Stops goesOn rest) : readExponent (exponent ++ rest) = some (exponent, rest) := by
  have digits : Stops Char.isDigit rest := stops.mono fun c digit => by simp [goesOn, digit]
  cases isExponent with
  | absent =>
      cases rest with
      | nil => rfl
      | cons c rest =>
          have letter : ¬ (c = 'e' ∨ c = 'E') := by
            rintro (rfl | rfl) <;> exact absurd (stops_cons.1 stops) (by decide)
          rw [List.nil_append, readExponent, if_neg letter]
  | @digits letter sign ds letters signs some all =>
      obtain ⟨d, ds, rfl⟩ := List.exists_cons_of_ne_nil some
      have run := readDigits_append all digits
      have signed : readSign (sign ++ d :: ds ++ rest) = (sign, d :: ds ++ rest) := by
        obtain rfl | rfl | rfl := signs
        · have digit : d.isDigit = true := all d List.mem_cons_self
          unfold readSign
          split
          · next same => exact absurd (List.cons.inj same).1 (ne_of_isDigit digit rfl)
          · next same => exact absurd (List.cons.inj same).1 (ne_of_isDigit digit rfl)
          · rfl
        · rfl
        · rfl
      rw [List.cons_append, List.cons_append, readExponent, if_pos letters, signed]
      dsimp only
      rw [run]
      rfl

namespace Whole

variable {ds : List Char}

theorem all (whole : Whole ds) : ∀ c ∈ ds, c.isDigit = true := by
  cases whole with
  | zero => exact List.forall_mem_singleton.2 rfl
  | digits first _ others => exact List.forall_mem_cons.2 ⟨first, others⟩

theorem ne_nil (whole : Whole ds) : ds ≠ [] := by
  cases whole <;> exact List.cons_ne_nil _ _

/-- Only a zero that stands alone is zero. -/
theorem eq_zero_iff (whole : Whole ds) : Nat.ofDigitChars 10 ds 0 = 0 ↔ ds = ['0'] := by
  cases whole with
  | zero => exact ⟨fun _ => rfl, fun _ => rfl⟩
  | @digits d ds first lead others =>
      have range := Text.range_of_isDigit first
      have front : d.toNat ≠ '0'.toNat := fun same => lead (Char.toNat_inj.1 same)
      have above : d.toNat - '0'.toNat ≠ 0 := by
        have zero : '0'.toNat = 48 := rfl
        omega
      refine ⟨fun none => ?_, fun same => absurd (List.cons.inj same).1 lead⟩
      rw [Nat.ofDigitChars_cons, Nat.ofDigitChars_eq_ofDigitChars_zero, Nat.mul_zero,
        Nat.zero_add] at none
      have product : 10 ^ ds.length * (d.toNat - '0'.toNat) = 0 := by omega
      obtain power | digit := Nat.mul_eq_zero.1 product
      · exact absurd power (Nat.ne_of_gt (Nat.pow_pos (by decide)))
      · exact absurd digit above

end Whole

/-- A number is one of those without a fraction, or keeps its spelling. -/
theorem readMagnitude_append (negative : Bool) {ds fraction exponent : List Char}
    (whole : Whole ds) (isFraction : Fraction fraction) (isExponent : Exponent exponent)
    (stops : Stops goesOn rest) :
    readMagnitude negative (ds ++ fraction ++ exponent ++ rest) =
      some (if fraction = [] ∧ exponent = [] ∧ ¬ (negative = true ∧ ds = ['0']) then
          .whole (if negative then -(Nat.ofDigitChars 10 ds 0 : Nat) else Nat.ofDigitChars 10 ds 0)
        else .other (String.ofList
          ((if negative then ['-'] else []) ++ ds ++ fraction ++ exponent)), rest) := by
  have digits : Stops Char.isDigit rest := stops.mono fun c digit => by simp [goesOn, digit]
  have point : Stops (· == '.') rest := stops.mono fun c point => by
    rw [beq_iff_eq] at point
    simp [goesOn, point]
  -- What follows the digits and what follows the fraction begins with a point or a letter.
  have afterFraction {p : Char → Bool} (letters : p 'e' = false ∧ p 'E' = false)
      (behind : Stops p rest) : Stops p (exponent ++ rest) := by
    cases isExponent with
    | absent => exact behind
    | digits which _ _ _ =>
        obtain rfl | rfl := which
        · exact stops_cons.2 letters.1
        · exact stops_cons.2 letters.2
  have afterDigits : Stops Char.isDigit (fraction ++ (exponent ++ rest)) := by
    cases isFraction with
    | absent => exact afterFraction ⟨rfl, rfl⟩ digits
    | digits _ _ => exact stops_cons.2 rfl
  have first := readWhole_append whole afterDigits
  have second := readFraction_append isFraction (afterFraction ⟨rfl, rfl⟩ digits)
    (afterFraction ⟨rfl, rfl⟩ point)
  have third := readExponent_append isExponent stops
  have value : Text.digits? ds = some (Nat.ofDigitChars 10 ds 0) :=
    Text.digits?_eq_some_iff.2 ⟨whole.ne_nil, whole.all, rfl⟩
  rw [List.append_assoc, List.append_assoc, readMagnitude, first]
  simp only [Option.bind_eq_bind, Option.bind_some, second, third, value, Option.pure_def]
  have same : (fraction.isEmpty && exponent.isEmpty &&
      !(negative && Nat.ofDigitChars 10 ds 0 == 0)) = true ↔
      fraction = [] ∧ exponent = [] ∧ ¬ (negative = true ∧ ds = ['0']) := by
    rw [← whole.eq_zero_iff]
    cases negative <;> simp [and_assoc]
  simp only [same]

theorem readNumber_append {n : Number} {cs : List Char} (spelt : SpellsNumber n cs)
    (stops : Stops goesOn rest) : readNumber (cs ++ rest) = some (n, rest) := by
  -- Without a minus sign in front the digits are read at once.
  have unsigned {ds more : List Char} (whole : Whole ds) :
      readNumber (ds ++ more) = readMagnitude false (ds ++ more) := by
    obtain ⟨d, ds, rfl⟩ := List.exists_cons_of_ne_nil whole.ne_nil
    have digit := whole.all d List.mem_cons_self
    unfold readNumber
    split
    · next same => exact absurd (List.cons.inj same).1 (ne_of_isDigit digit rfl)
    · rfl
  cases spelt with
  | @natural ds whole =>
      have read := readMagnitude_append false whole .absent .absent stops
      rw [List.append_nil, List.append_nil] at read
      rw [unsigned whole, read]
      rfl
  | @negative ds whole nonzero =>
      have read := readMagnitude_append true whole .absent .absent stops
      rw [List.append_nil, List.append_nil] at read
      rw [List.cons_append, readNumber, read, if_pos ⟨rfl, rfl, fun zero => nonzero zero.2⟩]
      rfl
  | @other sign ds fraction exponent signs whole isFraction isExponent broken =>
      obtain rfl | rfl := signs
      · have read := readMagnitude_append false whole isFraction isExponent stops
        rw [if_neg] at read
        · rw [List.nil_append, List.append_assoc, List.append_assoc, unsigned whole,
            ← List.append_assoc, ← List.append_assoc, read]
          rfl
        · rintro ⟨noFraction, noExponent, -⟩
          obtain some | some | ⟨sign, -⟩ := broken
          · exact some noFraction
          · exact some noExponent
          · cases sign
      · have read := readMagnitude_append true whole isFraction isExponent stops
        rw [if_neg] at read
        · exact read
        · rintro ⟨noFraction, noExponent, nonzero⟩
          obtain some | some | ⟨-, zero⟩ := broken
          · exact some noFraction
          · exact some noExponent
          · exact nonzero ⟨rfl, zero⟩

/-- The first character of a number, which no other value begins with. -/
theorem SpellsNumber.head {n : Number} {cs : List Char} (spelt : SpellsNumber n cs) :
    ∃ c tail, cs = c :: tail ∧ (c = '-' ∨ c.isDigit = true) := by
  have front {ds more : List Char} (whole : Whole ds) :
      ∃ c tail, ds ++ more = c :: tail ∧ (c = '-' ∨ c.isDigit = true) := by
    obtain ⟨d, ds, rfl⟩ := List.exists_cons_of_ne_nil whole.ne_nil
    exact ⟨d, ds ++ more, rfl, .inr (whole.all d List.mem_cons_self)⟩
  cases spelt with
  | natural whole =>
      rw [← List.append_nil cs]
      exact front whole
  | negative _ _ => exact ⟨'-', _, rfl, .inl rfl⟩
  | other signs whole _ _ _ =>
      obtain rfl | rfl := signs
      · rw [List.nil_append, List.append_assoc]
        exact front whole
      · exact ⟨'-', _, rfl, .inl rfl⟩

/-! ## Values -/

/-- Blanks and the character after them do not go on with a number. -/
theorem stops_goesOn_append_cons {blanks : List Char} {c : Char} (blank : Blanks blanks)
    (ends : goesOn c = false) : Stops goesOn (blanks ++ c :: rest) := by
  cases blanks with
  | nil => exact stops_cons.2 ends
  | cons b blanks =>
      refine stops_cons.2 ?_
      obtain rfl | rfl | rfl | rfl := blank b List.mem_cons_self <;> rfl

theorem isBlank_of_isDigit {c : Char} (digit : c.isDigit = true) : isBlank c = false := by
  simp only [isBlank, Bool.or_eq_false_iff, beq_eq_false_iff_ne]
  exact ⟨⟨⟨ne_of_isDigit digit rfl, ne_of_isDigit digit rfl⟩, ne_of_isDigit digit rfl⟩,
    ne_of_isDigit digit rfl⟩

theorem SpellsNumber.stops_isBlank {n : Number} {cs : List Char} (spelt : SpellsNumber n cs) :
    Stops isBlank (cs ++ rest) := by
  obtain ⟨c, tail, rfl, first⟩ := spelt.head
  refine stops_cons.2 ?_
  obtain rfl | digit := first
  · rfl
  · exact isBlank_of_isDigit digit

theorem skipBlanks_skipBlanks (cs : List Char) : skipBlanks (skipBlanks cs) = skipBlanks cs := by
  rw [skipBlanks, skipBlanks, List.dropWhile_idempotent]

theorem readValue_skipBlanks (depth : Nat) (cs : List Char) :
    readValue depth (skipBlanks cs) = readValue depth cs := by
  cases depth with
  | zero => rfl
  | succ depth => rw [readValue, skipBlanks_skipBlanks, readValue]

theorem readItems_skipBlanks (depth : Nat) (cs : List Char) :
    readItems depth (skipBlanks cs) = readItems depth cs := by
  cases depth with
  | zero => rfl
  | succ depth => rw [readItems, readValue_skipBlanks, readItems]

theorem readMembers_skipBlanks (depth : Nat) (cs : List Char) :
    readMembers depth (skipBlanks cs) = readMembers depth cs := by
  cases depth with
  | zero => rfl
  | succ depth => rw [readMembers, skipBlanks_skipBlanks, readMembers]

/-- Blanks before a value are passed over. -/
theorem readValue_blanks {blanks cs : List Char} {c : Char} (blank : Blanks blanks)
    (token : isBlank c = false) (depth : Nat) :
    readValue depth (blanks ++ c :: cs) = readValue depth (c :: cs) := by
  rw [← readValue_skipBlanks, skipBlanks_append_cons blank token]

/-- A bracket that closes is the beginning of no element. -/
theorem readItems_close {cs tail : List Char} (closed : skipBlanks cs = ']' :: tail)
    (depth : Nat) : readItems depth cs = none := by
  rw [← readItems_skipBlanks, closed]
  obtain _ | _ | depth := depth <;> rfl

theorem readMembers_close {cs tail : List Char} (closed : skipBlanks cs = '\x7d' :: tail)
    (depth : Nat) : readMembers depth cs = none := by
  rw [← readMembers_skipBlanks, closed]
  obtain _ | depth := depth <;> rfl

theorem readValue_quote (depth : Nat) (cs : List Char) :
    readValue (depth + 1) ('"' :: cs) =
      (readLiteral cs).map fun (s, rest) => (.string s, rest) :=
  rfl

theorem readValue_bracket (depth : Nat) (cs : List Char) :
    readValue (depth + 1) ('[' :: cs) =
      match skipBlanks cs with
      | ']' :: rest => some (.array [], rest)
      | rest => (readItems depth rest).map fun (items, rest) => (.array items, rest) :=
  rfl

theorem readValue_brace (depth : Nat) (cs : List Char) :
    readValue (depth + 1) ('\x7b' :: cs) =
      match skipBlanks cs with
      | '\x7d' :: rest => some (.object [], rest)
      | rest => (readMembers depth rest).map fun (members, rest) => (.object members, rest) :=
  rfl

theorem readValue_array {items : List Json} {cs : List Char} {depth : Nat}
    (read : readItems depth cs = some (items, rest)) :
    readValue (depth + 1) ('[' :: cs) = some (.array items, rest) := by
  rw [readValue_bracket]
  split
  · next tail closed =>
      rw [readItems_close closed] at read
      cases read
  · rw [readItems_skipBlanks, read]
    rfl

theorem readValue_object {members : List (Literal × Json)} {cs : List Char} {depth : Nat}
    (read : readMembers depth cs = some (members, rest)) :
    readValue (depth + 1) ('\x7b' :: cs) = some (.object members, rest) := by
  rw [readValue_brace]
  split
  · next tail closed =>
      rw [readMembers_close closed] at read
      cases read
  · rw [readMembers_skipBlanks, read]
    rfl

theorem readValue_number {n : Number} {cs : List Char} (spelt : SpellsNumber n cs)
    (stops : Stops goesOn rest) (depth : Nat) :
    readValue (depth + 1) (cs ++ rest) = some (.number n, rest) := by
  have read := readNumber_append spelt stops
  have bare : skipBlanks (cs ++ rest) = cs ++ rest :=
    skipBlanks_append blanks_nil spelt.stops_isBlank
  obtain ⟨c, tail, rfl, first⟩ := spelt.head
  have other {d : Char} (sign : d ≠ '-') (noDigit : d.isDigit = false) : c ≠ d := by
    rintro rfl
    obtain minus | digit := first
    · exact sign minus
    · exact absurd digit (by simp [noDigit])
  rw [readValue, bare]
  split
  -- Every other value begins with a character that is neither a sign nor a digit.
  case h_7 =>
    rw [read]
    rfl
  all_goals next same => exact absurd (List.cons.inj same).1 (other (by decide) rfl)

section

variable {depth : Nat} {cs blanks tail : List Char}

theorem readItems_last {item : Json} (blank : Blanks blanks)
    (read : readValue depth cs = some (item, blanks ++ ']' :: rest)) :
    readItems (depth + 1) cs = some ([item], rest) := by
  have closed : skipBlanks (blanks ++ ']' :: rest) = ']' :: rest :=
    skipBlanks_append_cons blank rfl
  simp only [readItems, read, closed, Option.bind_eq_bind, Option.bind_some, Option.pure_def]

theorem readItems_more {item : Json} {items : List Json} (blank : Blanks blanks)
    (read : readValue depth cs = some (item, blanks ++ ',' :: tail))
    (others : readItems depth tail = some (items, rest)) :
    readItems (depth + 1) cs = some (item :: items, rest) := by
  have comma : skipBlanks (blanks ++ ',' :: tail) = ',' :: tail :=
    skipBlanks_append_cons blank rfl
  simp only [readItems, read, comma, others, Option.bind_eq_bind, Option.bind_some,
    Option.pure_def]

/-- A name in an object is read as far as its colon. -/
theorem SpellsName.read {name : Literal} {key : List Char} (named : SpellsName name key)
    (cs : List Char) :
    ∃ literal after, skipBlanks (key ++ cs) = '"' :: literal ∧
      readLiteral literal = some (name, after) ∧ skipBlanks after = ':' :: cs := by
  obtain ⟨before, literal, after, blankBefore, spelt, blankAfter, rfl⟩ := named
  refine ⟨literal ++ (after ++ ':' :: cs), after ++ ':' :: cs, ?_, readLiteral_append spelt,
    skipBlanks_append_cons blankAfter rfl⟩
  simp only [List.append_assoc, List.cons_append, List.nil_append]
  exact skipBlanks_append_cons blankBefore rfl

theorem readMembers_last {name : Literal} {value : Json} {key : List Char}
    (named : SpellsName name key) (blank : Blanks blanks)
    (read : readValue depth cs = some (value, blanks ++ '\x7d' :: rest)) :
    readMembers (depth + 1) (key ++ cs) = some ([(name, value)], rest) := by
  obtain ⟨literal, after, opened, found, colon⟩ := named.read cs
  have closed : skipBlanks (blanks ++ '\x7d' :: rest) = '\x7d' :: rest :=
    skipBlanks_append_cons blank rfl
  simp only [readMembers, opened, found, colon, read, closed, Option.bind_eq_bind,
    Option.bind_some, Option.pure_def]

theorem readMembers_more {name : Literal} {value : Json} {members : List (Literal × Json)}
    {key : List Char} (named : SpellsName name key) (blank : Blanks blanks)
    (read : readValue depth cs = some (value, blanks ++ ',' :: tail))
    (others : readMembers depth tail = some (members, rest)) :
    readMembers (depth + 1) (key ++ cs) = some ((name, value) :: members, rest) := by
  obtain ⟨literal, after, opened, found, colon⟩ := named.read cs
  have comma : skipBlanks (blanks ++ ',' :: tail) = ',' :: tail :=
    skipBlanks_append_cons blank rfl
  simp only [readMembers, opened, found, colon, read, comma, others, Option.bind_eq_bind,
    Option.bind_some, Option.pure_def]

end

theorem Spells.ne_nil {j : Json} {cs : List Char} (spelt : Spells j cs) : cs ≠ [] := by
  cases spelt with
  | number _ written =>
      obtain ⟨c, tail, rfl, -⟩ := written.head
      exact List.append_ne_nil_of_right_ne_nil _ (List.cons_ne_nil _ _)
  | _ => exact List.append_ne_nil_of_right_ne_nil _ (List.cons_ne_nil _ _)

mutual

/-- A text of a value is read as the value, whatever follows that does not go on with it. -/
theorem readValue_append {j : Json} {cs : List Char} (spelt : Spells j cs) {depth : Nat}
    (deep : cs.length ≤ depth) {rest : List Char} (stops : Stops goesOn rest) :
    readValue depth (cs ++ rest) = some (j, rest) := by
  obtain _ | depth := depth
  · exact absurd (List.length_eq_zero_iff.1 (Nat.le_zero.1 deep)) spelt.ne_nil
  match j, cs, spelt with
  | _, _, .null blank =>
      rw [List.append_assoc, List.cons_append, readValue_blanks blank rfl]
      rfl
  | _, _, .isTrue blank =>
      rw [List.append_assoc, List.cons_append, readValue_blanks blank rfl]
      rfl
  | _, _, .isFalse blank =>
      rw [List.append_assoc, List.cons_append, readValue_blanks blank rfl]
      rfl
  | _, _, .number blank written =>
      rw [List.append_assoc, ← readValue_skipBlanks,
        skipBlanks_append blank written.stops_isBlank, readValue_number written stops]
  | _, _, .string blank written =>
      rw [List.append_assoc, List.cons_append, readValue_blanks blank rfl, readValue_quote,
        readLiteral_append written]
      rfl
  | _, _, .emptyArray blank inside =>
      rw [List.append_assoc, List.cons_append, readValue_blanks blank rfl, readValue_bracket,
        List.append_assoc, List.cons_append, skipBlanks_append_cons inside rfl]
      rfl
  | _, _, .array blank written =>
      rw [List.append_assoc, List.cons_append, readValue_blanks blank rfl]
      refine readValue_array (readItems_append written ?_)
      simp only [List.length_append, List.length_cons] at deep
      omega
  | _, _, .emptyObject blank inside =>
      rw [List.append_assoc, List.cons_append, readValue_blanks blank rfl, readValue_brace,
        List.append_assoc, List.cons_append, skipBlanks_append_cons inside rfl]
      rfl
  | _, _, .object blank written =>
      rw [List.append_assoc, List.cons_append, readValue_blanks blank rfl]
      refine readValue_object (readMembers_append written ?_)
      simp only [List.length_append, List.length_cons] at deep
      omega

theorem readItems_append {items : List Json} {cs : List Char} (spelt : SpellsItems items cs)
    {depth : Nat} (deep : cs.length ≤ depth) {rest : List Char} :
    readItems depth (cs ++ rest) = some (items, rest) := by
  obtain _ | depth := depth
  · cases spelt <;> simp at deep
  match items, cs, spelt with
  | _, _, .last written blank =>
      simp only [List.length_append, List.length_cons] at deep
      simp only [List.append_assoc, List.cons_append, List.nil_append]
      exact readItems_last blank
        (readValue_append written (by omega) (stops_goesOn_append_cons blank rfl))
  | _, _, .more written blank others =>
      simp only [List.length_append, List.length_cons] at deep
      simp only [List.append_assoc, List.cons_append]
      exact readItems_more blank
        (readValue_append written (by omega) (stops_goesOn_append_cons blank rfl))
        (readItems_append others (by omega))

theorem readMembers_append {members : List (Literal × Json)} {cs : List Char}
    (spelt : SpellsMembers members cs) {depth : Nat} (deep : cs.length ≤ depth)
    {rest : List Char} : readMembers depth (cs ++ rest) = some (members, rest) := by
  obtain _ | depth := depth
  · cases spelt <;> simp at deep
  match members, cs, spelt with
  | _, _, .last named written blank =>
      simp only [List.length_append, List.length_cons] at deep
      simp only [List.append_assoc, List.cons_append, List.nil_append]
      exact readMembers_last named blank
        (readValue_append written (by omega) (stops_goesOn_append_cons blank rfl))
  | _, _, .more named written blank others =>
      simp only [List.length_append, List.length_cons] at deep
      simp only [List.append_assoc, List.cons_append]
      exact readMembers_more named blank
        (readValue_append written (by omega) (stops_goesOn_append_cons blank rfl))
        (readMembers_append others (by omega))

end

/-- **Every text of a value.**  However a value is written, it is read as that value. -/
theorem parse_of_spells {j : Json} {text : String} (spelt : SpellsText j text) :
    parse text = some j := by
  obtain ⟨cs, after, value, blank, whole⟩ := spelt
  have ends : Stops goesOn after := by
    intro c first
    obtain ⟨tail, rfl⟩ := List.head?_eq_some_iff.1 first
    obtain rfl | rfl | rfl | rfl := blank c List.mem_cons_self <;> rfl
  have deep : cs.length ≤ 2 * text.toList.length + 2 := by
    rw [whole, List.length_append]
    omega
  have nothing : skipBlanks after = [] := by
    rw [← List.append_nil after]
    exact skipBlanks_append blank stops_nil
  have read := readValue_append value deep ends
  rw [← whole] at read
  simp only [parse, read, nothing, Option.bind_eq_bind, Option.bind_some, List.isEmpty_nil, if_true]

end ManagedLdap.Json
