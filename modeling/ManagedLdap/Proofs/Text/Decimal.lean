/-
# ManagedLdap.Proofs.Text.Decimal -- the number that a text writes

`unsigned?` goes over the characters and gives up at the first that is no digit.  What it accepts
is said here without it: `Writes` is a text of decimal digits behind at most one plus sign, with
its value, and `Padded` is a text with blank characters around it.  `unsigned?_eq_some_iff` and
`unsigned?_trimChars_eq_some_iff` say that nothing else is read, and nothing of it as another
number.
-/
import ManagedLdap.Text.Decimal
import ManagedLdap.Proofs.Text.Trim

namespace ManagedLdap.Text

set_option autoImplicit false

/-! ## Digits -/

theorem digit?_eq (c : Char) :
    digit? c = if c.isDigit then some (c.toNat - '0'.toNat) else none := by
  have range : ('0' ≤ c ∧ c ≤ '9') ↔ c.isDigit = true := by
    simp [Char.isDigit, Char.le_def]
  simp only [digit?, range]

theorem range_of_isDigit {c : Char} (digit : c.isDigit = true) : 48 ≤ c.toNat ∧ c.toNat ≤ 57 := by
  simpa [Char.isDigit, UInt32.le_iff_toNat_le] using digit

/-- Digits are read onto what stands before them, and nothing else is. -/
theorem digitsFrom_eq_some_iff {value n : Nat} {cs : List Char} :
    digitsFrom value cs = some n ↔
      (∀ c ∈ cs, c.isDigit = true) ∧ Nat.ofDigitChars 10 cs value = n := by
  induction cs generalizing value with
  | nil => simp [digitsFrom]
  | cons c cs ih =>
      rw [digitsFrom, digit?_eq, Nat.ofDigitChars_cons, List.forall_mem_cons, Nat.mul_comm 10]
      by_cases digit : c.isDigit = true
      · simp [digit, ih]
      · simp [digit]

theorem digits?_eq_some_iff {n : Nat} {cs : List Char} :
    digits? cs = some n ↔
      cs ≠ [] ∧ (∀ c ∈ cs, c.isDigit = true) ∧ Nat.ofDigitChars 10 cs 0 = n := by
  cases cs with
  | nil => simp [digits?]
  | cons c cs => simp [digits?, digitsFrom_eq_some_iff]

/-! ## Numbers -/

/-- A text that writes a number: decimal digits, at least one, behind at most one plus sign. -/
def Writes (cs : List Char) (n : Nat) : Prop :=
  ∃ sign digits, cs = sign ++ digits ∧ (sign = [] ∨ sign = ['+']) ∧ digits ≠ [] ∧
    (∀ c ∈ digits, c.isDigit = true) ∧ Nat.ofDigitChars 10 digits 0 = n

/-- A text with blank characters around it. -/
def Padded (padded cs : List Char) : Prop :=
  ∃ left right, padded = left ++ cs ++ right ∧ ∀ c ∈ left ++ right, isBlank c = true

theorem unsigned?_eq_some_iff {limit n : Nat} {cs : List Char} :
    unsigned? limit cs = some n ↔ Writes cs n ∧ n ≤ limit := by
  have read (digits : List Char) :
      (digits? digits).filter (· ≤ limit) = some n ↔ digits? digits = some n ∧ n ≤ limit := by
    simp [Option.filter_eq_some_iff]
  constructor
  · intro found
    unfold unsigned? at found
    split at found
    · next digits =>
        obtain ⟨written, within⟩ := (read digits).1 found
        obtain ⟨some, all, value⟩ := digits?_eq_some_iff.1 written
        exact ⟨⟨['+'], digits, rfl, .inr rfl, some, all, value⟩, within⟩
    · obtain ⟨written, within⟩ := (read cs).1 found
      obtain ⟨some, all, value⟩ := digits?_eq_some_iff.1 written
      exact ⟨⟨[], cs, rfl, .inl rfl, some, all, value⟩, within⟩
  · rintro ⟨⟨sign, digits, rfl, signs, some, all, value⟩, within⟩
    have written := digits?_eq_some_iff.2 ⟨some, all, value⟩
    obtain rfl | rfl := signs
    · obtain ⟨d, ds, rfl⟩ := List.exists_cons_of_ne_nil some
      have digit : d.isDigit = true := all d List.mem_cons_self
      have unsigned : d ≠ '+' := by
        rintro rfl
        exact absurd digit (by decide)
      rw [List.nil_append, unsigned?.eq_2]
      · exact (read (d :: ds)).2 ⟨written, within⟩
      · intro rest same
        exact unsigned (List.cons.inj same).1
    · exact (read digits).2 ⟨written, within⟩

/-! ## Numbers with a sign -/

/-- A whole number that takes 32 bits at most. -/
def Word32 (n : Int) : Prop := -2147483648 ≤ n ∧ n ≤ 2147483647

instance (n : Int) : Decidable (Word32 n) := inferInstanceAs (Decidable (_ ∧ _))

/-- A text that writes a whole number: a number as above, or decimal digits behind a minus sign. -/
inductive WritesSigned : List Char → Int → Prop
  | plain {cs : List Char} {n : Nat} (written : Writes cs n) : WritesSigned cs n
  | negative {digits : List Char} {n : Nat} (some : digits ≠ [])
      (all : ∀ c ∈ digits, c.isDigit = true) (value : Nat.ofDigitChars 10 digits 0 = n) :
      WritesSigned ('-' :: digits) (-n)

theorem writes_iff_digits? {n : Nat} {cs : List Char} :
    Writes cs n ↔ digits? (match cs with | '+' :: rest => rest | _ => cs) = some n := by
  have bounded : unsigned? n cs = some n ↔ Writes cs n ∧ n ≤ n := unsigned?_eq_some_iff
  rw [and_iff_left (Nat.le_refl n)] at bounded
  rw [← bounded]
  unfold unsigned?
  rw [Option.filter_eq_some_iff, decide_eq_true_iff]
  exact and_iff_left (Nat.le_refl n)

theorem signed32?_eq_some_iff {cs : List Char} {n : Int} :
    signed32? cs = some n ↔ WritesSigned cs n ∧ Word32 n := by
  have within : decide (-2147483648 ≤ n ∧ n ≤ 2147483647) = true ↔ Word32 n := decide_eq_true_iff
  have negated (digits : List Char) :
      ((do let m ← digits? digits; pure (m : Int)).map fun m => -m) =
        (digits? digits).map fun m : Nat => -(m : Int) := by
    cases digits? digits <;> rfl
  unfold signed32?
  rw [Option.filter_eq_some_iff, within]
  refine and_congr_left fun _ => ⟨fun read => ?_, fun written => ?_⟩
  · split at read
    · next digits =>
        obtain ⟨m, value, rfl⟩ := Option.map_eq_some_iff.1 read
        exact .plain (writes_iff_digits?.2 value)
    · next digits =>
        rw [negated] at read
        obtain ⟨m, value, rfl⟩ := Option.map_eq_some_iff.1 read
        obtain ⟨some, all, value⟩ := digits?_eq_some_iff.1 value
        exact .negative some all value
    · next unsigned _ =>
        obtain ⟨m, value, rfl⟩ := Option.map_eq_some_iff.1 read
        refine .plain (writes_iff_digits?.2 ?_)
        split
        · exact absurd rfl (unsigned _)
        · exact value
  · cases written with
    | @plain _ m written =>
        have value := writes_iff_digits?.1 written
        split
        · next digits => exact Option.map_eq_some_iff.2 ⟨m, value, rfl⟩
        · next digits =>
            have sign := (digits?_eq_some_iff.1 value).2.1 '-' List.mem_cons_self
            exact absurd sign (by decide)
        · next unsigned _ =>
            split at value
            · exact absurd rfl (unsigned _)
            · exact Option.map_eq_some_iff.2 ⟨m, value, rfl⟩
    | @negative digits m some all value =>
        refine (negated digits).trans ?_
        exact Option.map_eq_some_iff.2 ⟨m, digits?_eq_some_iff.2 ⟨some, all, value⟩, rfl⟩

/-! ## Blank characters around a number -/

theorem isBlank_of_isDigit {c : Char} (digit : c.isDigit = true) : isBlank c = false := by
  have range := range_of_isDigit digit
  unfold isBlank
  generalize c.toNat = n at range
  simp only [Bool.or_eq_false_iff, Bool.and_eq_false_iff, decide_eq_false_iff_not,
    beq_eq_false_iff_ne]
  omega

namespace Writes

variable {cs : List Char} {n : Nat}

theorem ne_nil (written : Writes cs n) : cs ≠ [] := by
  obtain ⟨sign, digits, rfl, -, some, -⟩ := written
  exact List.append_ne_nil_of_right_ne_nil sign some

theorem trimmed (written : Writes cs n) : Trimmed cs := by
  obtain ⟨sign, digits, rfl, signs, some, all, -⟩ := written
  have solid : ∀ c ∈ sign ++ digits, isBlank c = false := by
    intro c within
    obtain front | back := List.mem_append.1 within
    · obtain rfl | rfl := signs
      · cases front
      · obtain rfl := List.mem_singleton.1 front
        decide
    · exact isBlank_of_isDigit (all c back)
  exact ⟨fun c first => solid c (List.mem_of_mem_head? first),
    fun c last => solid c (List.mem_of_getLast? last)⟩

end Writes

/-- What trimming takes away is blank. -/
theorem padded_trimChars (cs : List Char) : Padded cs (trimChars cs) := by
  have right (ds : List Char) :
      ∃ blanks, ds = trimRightChars ds ++ blanks ∧ ∀ c ∈ blanks, isBlank c = true := by
    induction ds with
    | nil => exact ⟨[], rfl, fun _ none => by cases none⟩
    | cons d ds ih =>
        obtain ⟨blanks, whole, blank⟩ := ih
        rw [trimRightChars_cons]
        split
        · next cut =>
            rw [cut.1] at whole
            exact ⟨d :: ds, rfl, List.forall_mem_cons.2 ⟨cut.2, whole ▸ blank⟩⟩
        · exact ⟨blanks, congrArg (d :: ·) whole, blank⟩
  obtain ⟨blanks, whole, blank⟩ := right (cs.dropWhile isBlank)
  refine ⟨cs.takeWhile isBlank, blanks, ?_, ?_⟩
  · rw [trimChars, List.append_assoc, ← whole, List.takeWhile_append_dropWhile]
  · intro c within
    obtain front | back := List.mem_append.1 within
    · exact List.all_eq_true.1 List.all_takeWhile c front
    · exact blank c back

/-- Trimming takes away all that is blank around a text. -/
theorem Padded.trimChars_eq {padded cs : List Char} (around : Padded padded cs)
    (trimmed : Trimmed cs) (some : cs ≠ []) : trimChars padded = cs := by
  obtain ⟨left, right, rfl, blank⟩ := around
  obtain ⟨leftBlank, rightBlank⟩ := List.forall_mem_append.1 blank
  have behind (ds : List Char) (all : ∀ c ∈ ds, isBlank c = true) : trimRightChars ds = [] := by
    induction ds with
    | nil => rfl
    | cons d ds ih =>
        obtain ⟨first, others⟩ := List.forall_mem_cons.1 all
        rw [trimRightChars_cons, if_pos ⟨ih others, first⟩]
  have start : ∀ c ∈ (cs ++ right).head?, isBlank c = false := by
    obtain ⟨c, cs, rfl⟩ := List.exists_cons_of_ne_nil some
    exact trimmed.start
  rw [trimChars, List.append_assoc, List.dropWhile_append_of_pos leftBlank,
    dropWhile_isBlank_eq start, trimRightChars_append trimmed.finish, behind right rightBlank,
    List.append_nil]

/-- A number is read out of the blank characters around it. -/
theorem unsigned?_trimChars_eq_some_iff {limit n : Nat} {cs : List Char} :
    unsigned? limit (trimChars cs) = some n ↔
      ∃ written, Padded cs written ∧ Writes written n ∧ n ≤ limit := by
  rw [unsigned?_eq_some_iff]
  constructor
  · rintro ⟨written, within⟩
    exact ⟨trimChars cs, padded_trimChars cs, written, within⟩
  · rintro ⟨text, around, written, within⟩
    rw [around.trimChars_eq written.trimmed written.ne_nil]
    exact ⟨written, within⟩

end ManagedLdap.Text
