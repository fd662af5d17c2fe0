/-
# ManagedLdap.Proofs.Filter.Escaping -- a value and its text inside a filter

`escape` looks at each character once.  It can also be done by replacing the five special
characters one after the other in the whole text, and then their order matters: a character that is
replaced late must not stand in what was written for an earlier one, or escapes are escaped again.
`toList_replaceInTurn` has this as its only condition, and `codes` meets it because the backslash
comes first.

What escaped text is like follows from two case distinctions: `escapeChar_cases` has the octet of
each escape, for whoever undoes it, and `written_cases` its text.  Escaped text holds no character
that ends a value, each of its backslashes starts one of the five escapes, and with these undone it
is the value again.  `escape_reversible` puts it together.
-/
import ManagedLdap.Filter.Grammar
import ManagedLdap.Proofs.Text.Replacement
import ManagedLdap.Proofs.Text.Utf8

namespace ManagedLdap.Filter

set_option autoImplicit false

/-! ## Escaped text -/

/-- Every backslash is followed by two hexadecimal digits. -/
def EscapesOnly (text : List Char) : Prop :=
  ∀ before after, text = before ++ '\\' :: after →
    ∃ a b rest, after = a :: b :: rest ∧
      (Text.hexDigit? a).isSome ∧ (Text.hexDigit? b).isSome

/-- The text that a whole value stands for, its escapes undone. -/
def unescaped? (text : List Char) : Option String :=
  match readValue text with
  | some (octets, []) => Text.decodeUtf8? octets
  | _ => none

/-- A hexadecimal digit has no meaning of its own in a filter. -/
theorem hexDigit?_plain {c : Char} {n : Nat} (h : Text.hexDigit? c = some n) :
    endsValue c = false ∧ c ≠ '\\' := by
  constructor
  · rw [← Bool.not_eq_true]
    intro ends
    have special : c = '(' ∨ c = ')' ∨ c = '*' ∨ c = Char.ofNat 0 := by
      simpa [endsValue, or_assoc] using ends
    have no_digit : Text.hexDigit? c = none := by
      rcases special with rfl | rfl | rfl | rfl <;> decide
    rw [no_digit] at h
    cases h
  · rintro rfl
    have no_digit : Text.hexDigit? '\\' = none := by decide
    rw [no_digit] at h
    cases h

/-- A character stays as it is, and then it means nothing in a filter, or it becomes a
backslash and the two digits of its octet. -/
theorem escapeChar_cases (c : Char) :
    (escapeChar c = [c] ∧ endsValue c = false ∧ c ≠ '\\') ∨
    ∃ a b hi lo, escapeChar c = ['\\', a, b] ∧ Text.hexDigit? a = some hi ∧
      Text.hexDigit? b = some lo ∧ String.utf8EncodeChar c = [UInt8.ofNat (hi * 16 + lo)] := by
  by_cases backslash : c = '\\'
  · subst backslash
    exact .inr ⟨'5', 'c', 5, 12, by decide⟩
  by_cases star : c = '*'
  · subst star
    exact .inr ⟨'2', 'a', 2, 10, by decide⟩
  by_cases opening : c = '('
  · subst opening
    exact .inr ⟨'2', '8', 2, 8, by decide⟩
  by_cases closing : c = ')'
  · subst closing
    exact .inr ⟨'2', '9', 2, 9, by decide⟩
  by_cases nul : c = Char.ofNat 0
  · subst nul
    exact .inr ⟨'0', '0', 0, 0, by decide⟩
  · refine .inl ⟨?_, ?_, backslash⟩
    · rw [escapeChar, if_neg backslash, if_neg star, if_neg opening, if_neg closing, if_neg nul]
    · simp [endsValue, star, opening, closing, nul]

theorem escapeChars_cons (c : Char) (cs : List Char) :
    escapeChars (c :: cs) = escapeChar c ++ escapeChars cs := rfl

/-- Escaped text holds no character that ends a value. -/
theorem filter_escapeChars (cs : List Char) : (escapeChars cs).filter endsValue = [] := by
  induction cs with
  | nil => rfl
  | cons c cs ih =>
      rw [escapeChars_cons, List.filter_append, ih, List.append_nil]
      obtain ⟨same, plain, -⟩ | ⟨a, b, hi, lo, written, first, second, -⟩ := escapeChar_cases c
      · simp [same, plain]
      · have backslash : endsValue '\\' = false := by decide
        simp [written, backslash, (hexDigit?_plain first).1, (hexDigit?_plain second).1]

/-! ### The five codes -/

/-- The characters with a meaning in a filter, and what is written for each, in the order in which
they are replaced. -/
def codes : List (Char × String) :=
  [('\\', "\\5c"), ('*', "\\2a"), ('(', "\\28"), (')', "\\29"), (Char.ofNat 0, "\\00")]

/-- A code is a backslash and two hexadecimal digits. -/
theorem codes_shape {code : Char × String} (among : code ∈ codes) :
    ∃ a b, code.2.toList = ['\\', a, b] ∧
      (Text.hexDigit? a).isSome ∧ (Text.hexDigit? b).isSome := by
  simp only [codes, List.mem_cons, List.not_mem_nil, or_false] at among
  rcases among with rfl | rfl | rfl | rfl | rfl
  · exact ⟨'5', 'c', by decide⟩
  · exact ⟨'2', 'a', by decide⟩
  · exact ⟨'2', '8', by decide⟩
  · exact ⟨'2', '9', by decide⟩
  · exact ⟨'0', '0', by decide⟩

/-- What is written for one character: its code, or the character itself. -/
def written (codes : List (Char × String)) (c : Char) : List Char :=
  match codes.find? fun code => code.1 == c with
  | some code => code.2.toList
  | none => [c]

/-- A character is written by its code, or it has none and stays. -/
theorem written_cases (codes : List (Char × String)) (c : Char) :
    (∃ code ∈ codes, code.1 = c ∧ written codes c = code.2.toList) ∨
      (∀ code ∈ codes, code.1 ≠ c) ∧ written codes c = [c] := by
  unfold written
  split
  · next code found =>
      have same : code.1 = c := by simpa using List.find?_some found
      exact .inl ⟨code, List.mem_of_find?_eq_some found, same, rfl⟩
  · next absent => exact .inr ⟨by simpa using absent, rfl⟩

theorem written_codes (c : Char) : written codes c = escapeChar c := by
  obtain ⟨code, among, rfl, same⟩ | ⟨none, same⟩ := written_cases codes c
  · rw [same]
    simp only [codes, List.mem_cons, List.not_mem_nil, or_false] at among
    rcases among with rfl | rfl | rfl | rfl | rfl <;> decide
  · simp only [codes, List.forall_mem_cons] at none
    obtain ⟨backslash, star, opening, closing, nul, -⟩ := none
    rw [same, escapeChar, if_neg backslash.symm, if_neg star.symm, if_neg opening.symm,
      if_neg closing.symm, if_neg nul.symm]

/-- Each backslash of an escaped text starts one of the five codes. -/
theorem code_of_backslash (cs : List Char) {before after : List Char}
    (split : escapeChars cs = before ++ '\\' :: after) :
    ∃ code ∈ codes, code.2.toList <+: '\\' :: after := by
  induction cs generalizing before with
  | nil => simp [escapeChars] at split
  | cons c cs ih =>
      rw [escapeChars_cons, ← written_codes] at split
      obtain ⟨code, among, -, same⟩ | ⟨none, same⟩ := written_cases codes c
      · obtain ⟨a, b, shape, first, second⟩ := codes_shape among
        obtain ⟨_, first⟩ := Option.isSome_iff_exists.1 first
        obtain ⟨_, second⟩ := Option.isSome_iff_exists.1 second
        rw [same, shape] at split
        -- The backslash is the one that was written here, or it comes after both digits.
        match before with
        | [] =>
            obtain ⟨-, rest⟩ := List.cons.inj split
            exact ⟨code, among, escapeChars cs, by rw [shape, ← rest]; rfl⟩
        | [_] =>
            have digit : a = '\\' := by simp_all
            exact absurd digit (hexDigit?_plain first).2
        | [_, _] =>
            have digit : b = '\\' := by simp_all
            exact absurd digit (hexDigit?_plain second).2
        | _ :: _ :: _ :: before =>
            have rest : escapeChars cs = before ++ '\\' :: after := by simp_all
            exact ih rest
      · rw [same] at split
        cases before with
        | nil =>
            have backslash : ('\\', "\\5c") ∈ codes := List.mem_cons_self
            exact absurd (List.cons.inj split).1.symm (none _ backslash)
        | cons d before => exact ih (List.cons.inj split).2

theorem escapesOnly_escapeChars (cs : List Char) : EscapesOnly (escapeChars cs) := by
  intro before after split
  obtain ⟨code, among, rest, whole⟩ := code_of_backslash cs split
  obtain ⟨a, b, shape, first, second⟩ := codes_shape among
  rw [shape] at whole
  exact ⟨a, b, rest, (List.cons.inj whole).2.symm, first, second⟩

/-- Undoing the escapes of a character gives its octets. -/
theorem readValue_escapeChar (c : Char) (rest : List Char) :
    readValue (escapeChar c ++ rest) =
      (readValue rest).map fun (octets, rest) => (String.utf8EncodeChar c ++ octets, rest) := by
  obtain ⟨same, inside, plain⟩ | ⟨a, b, hi, lo, written, first, second, octet⟩ :=
    escapeChar_cases c
  · have single : readValue (c :: rest) = (do
        let (octets, rest) ← readValue rest
        return (String.utf8EncodeChar c ++ octets, rest)) := by
      rw [readValue]
      · simp [inside, plain]
      · intro a b tail h
        exact absurd h plain
    rw [same, List.singleton_append, single]
    cases readValue rest <;> rfl
  · rw [written, octet]
    simp only [List.cons_append, List.nil_append, readValue, first, second]
    cases readValue rest <;> rfl

theorem readValue_escapeChars (cs : List Char) :
    readValue (escapeChars cs) = some (cs.flatMap String.utf8EncodeChar, []) := by
  induction cs with
  | nil => rfl
  | cons c cs ih =>
      rw [escapeChars_cons, readValue_escapeChar, ih]
      rfl

/-- Undoing the escapes of a value gives the value. -/
theorem unescaped?_escape (value : String) :
    unescaped? (escapeChars value.toList) = some value := by
  rw [unescaped?, readValue_escapeChars]
  exact Text.decodeUtf8?_encodeUtf8 value

/-! ### One character after the other -/

/-- The text with one character after the other replaced in it. -/
def replaceInTurn (codes : List (Char × String)) (text : String) : String :=
  codes.foldl (fun text code => text.replace code.1 code.2) text

theorem flatMap_written_of_free {codes : List (Char × String)} {cs : List Char}
    (free : ∀ code ∈ codes, code.1 ∉ cs) : cs.flatMap (written codes) = cs := by
  induction cs with
  | nil => rfl
  | cons c cs ih =>
      have rest := ih fun code among within => free code among (List.mem_cons_of_mem _ within)
      obtain ⟨code, among, rfl, -⟩ | ⟨-, same⟩ := written_cases codes c
      · exact absurd List.mem_cons_self (free code among)
      · rw [List.flatMap_cons, same, rest, List.singleton_append]

/-- Replacing characters one after the other maps each by itself, if none is replaced that stands in
what was written before. -/
theorem toList_replaceInTurn {codes : List (Char × String)}
    (apart : codes.Pairwise fun earlier later => later.1 ∉ earlier.2.toList) (text : String) :
    (replaceInTurn codes text).toList = text.toList.flatMap (written codes) := by
  induction codes generalizing text with
  | nil => exact (flatMap_written_of_free (by simp)).symm
  | cons code codes ih =>
      obtain ⟨free, apart⟩ := List.pairwise_cons.1 apart
      have step (c : Char) :
          (Text.replaced code.1 code.2 c).flatMap (written codes) = written (code :: codes) c := by
        by_cases here : code.1 = c
        · have found : written (code :: codes) c = code.2.toList := by simp [written, here]
          rw [found, Text.replaced, if_pos here.symm, flatMap_written_of_free free]
        · have passed : written (code :: codes) c = written codes c := by simp [written, here]
          rw [passed, Text.replaced, if_neg (Ne.symm here), List.flatMap_singleton]
      calc (replaceInTurn (code :: codes) text).toList
        _ = (text.replace code.1 code.2).toList.flatMap (written codes) := ih apart _
        _ = text.toList.flatMap fun c =>
              (Text.replaced code.1 code.2 c).flatMap (written codes) := by
            rw [Text.toList_replace, List.flatMap_assoc]
        _ = text.toList.flatMap (written (code :: codes)) := by simp only [step]

/-- The backslash is replaced first, and no other of the five is part of a code. -/
theorem codes_apart : codes.Pairwise fun earlier later => later.1 ∉ earlier.2.toList := by
  decide

theorem toList_escape (value : String) :
    (escape value).toList = value.toList.flatMap (written codes) := by
  rw [funext written_codes]
  exact String.toList_ofList

/-! ## An exact and reversible encoding -/

/-- **Escaping is exact and reversible.**  Replacing the five characters in turn over the whole text
is mapping each character once, and so it is after the first `n` of them: what one replacement
writes no later one touches.  No character that ends a value is left, and no backslash but the first
of a code.  With the escapes undone the value is there again, so that no two values have one text,
and a text is escaped piece by piece. -/
theorem escape_reversible (u v : String) :
    escape v = ((((v.replace '\\' "\\5c").replace '*' "\\2a").replace '(' "\\28").replace
      ')' "\\29").replace (Char.ofNat 0) "\\00" ∧
    (escape v).toList = v.toList.flatMap (written codes) ∧
    (∀ n, (replaceInTurn (codes.take n) v).toList = v.toList.flatMap (written (codes.take n))) ∧
    (∀ c ∈ (escape v).toList, c ≠ '*' ∧ c ≠ '(' ∧ c ≠ ')' ∧ c ≠ Char.ofNat 0) ∧
    (∀ before after, (escape v).toList = before ++ '\\' :: after →
      ∃ code ∈ codes, code.2.toList <+: '\\' :: after) ∧
    unescaped? (escape v).toList = some v ∧
    (escape u = escape v ↔ u = v) ∧
    escape (u ++ v) = escape u ++ escape v := by
  have chars (w : String) : (escape w).toList = escapeChars w.toList := String.toList_ofList
  have undone (w : String) : unescaped? (escape w).toList = some w := by
    rw [chars, unescaped?_escape]
  refine ⟨?_, toList_escape v, ?_, ?_, ?_, undone v, ?_, ?_⟩
  · have turn : escape v = replaceInTurn codes v := by
      rw [← String.toList_inj, toList_escape, toList_replaceInTurn codes_apart]
    exact turn
  · intro n
    exact toList_replaceInTurn (codes_apart.sublist (List.take_sublist n codes)) v
  · intro c within
    rw [chars] at within
    have plain := List.filter_eq_nil_iff.1 (filter_escapeChars v.toList) c within
    simp only [endsValue, Bool.or_eq_true, beq_iff_eq, not_or] at plain
    obtain ⟨⟨⟨opening, closing⟩, star⟩, nul⟩ := plain
    exact ⟨star, opening, closing, nul⟩
  · intro before after split
    exact code_of_backslash v.toList (chars v ▸ split)
  · constructor
    · intro same
      have both := undone u
      rw [same, undone v] at both
      exact (Option.some.inj both).symm
    · rintro rfl
      rfl
  · rw [← String.toList_inj, String.toList_append]
    simp only [toList_escape, String.toList_append, List.flatMap_append]

end ManagedLdap.Filter
