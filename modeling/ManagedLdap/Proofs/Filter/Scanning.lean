/-
# ManagedLdap.Proofs.Filter.Scanning -- what an expression says, read from left to right

`fill` goes over an expression character by character and carries with it what it has read of a
placeholder.  Here stands what an expression is without that: text, and placeholders that each
reach from an opening brace to the nearest closing one.  `Fills` is what comes of an expression
whose placeholders all stand for arguments; `Opens` finds the places where a placeholder opens,
and `Faulty` says what is wrong with one, from what follows its brace.

Every expression is empty, starts with a character of its text, starts with a placeholder, or
with a brace that nothing closes (`expression_induction`), and `fill` has one equation for each.
`substitute_scans` follows: what is filled in is what `Fills` says, and nothing is filled in just
when some placeholder is at fault, where the leftmost of these is reported.
-/
import ManagedLdap.Ldap.Backend
import ManagedLdap.Proofs.Text.Decimal

namespace ManagedLdap.Filter

set_option autoImplicit false

variable {args : List String} {cs content after : List Char}

/-! ## Expressions -/

/-- What stands between two braces writes the index `i`: a decimal number that fits 64 bits, with
blank characters around it. -/
def Indexes (content : List Char) (i : Nat) : Prop :=
  ∃ written, Text.Padded content written ∧ Text.Writes written i ∧ i < UInt64.size

/-- What an expression comes to when each placeholder stands for an argument: the text outside
stays, and a placeholder gives way to its argument, which is not looked at again. -/
inductive Fills (args : List String) : List Char → List Char → Prop
  | done : Fills args [] []
  | text {c : Char} {cs out : List Char} (plain : c ≠ '\x7b') (rest : Fills args cs out) :
      Fills args (c :: cs) (c :: out)
  | placeholder {content cs out : List Char} {i : Nat} {arg : String} (nearest : '\x7d' ∉ content)
      (index : Indexes content i) (given : args[i]? = some arg) (rest : Fills args cs out) :
      Fills args ('\x7b' :: content ++ '\x7d' :: cs) ((escape arg).toList ++ out)

/-- What can stand before a place outside the placeholders: text and whole placeholders. -/
inductive Outside : List Char → Prop
  | start : Outside []
  | text {c : Char} {before : List Char} (plain : c ≠ '\x7b') (rest : Outside before) :
      Outside (c :: before)
  | placeholder {content before : List Char} (nearest : '\x7d' ∉ content)
      (rest : Outside before) : Outside ('\x7b' :: content ++ '\x7d' :: before)

/-- A placeholder opens between these two parts of an expression. -/
def Opens (expr before after : List Char) : Prop :=
  expr = before ++ '\x7b' :: after ∧ Outside before

/-- What is wrong with a placeholder, by what follows its opening brace, if there are `given`
arguments: no brace closes it, what stands before the nearest one is no index, or there is no such
argument. -/
inductive Faulty (given : Nat) : List Char → Fault → Prop
  | unterminated {after : List Char} (unclosed : '\x7d' ∉ after) :
      Faulty given after .unterminated
  | malformed {content rest : List Char} (nearest : '\x7d' ∉ content)
      (other : ∀ i, ¬ Indexes content i) :
      Faulty given (content ++ '\x7d' :: rest) (.malformed (String.ofList content))
  | missing {content rest : List Char} {i : Nat} (nearest : '\x7d' ∉ content)
      (index : Indexes content i) (beyond : given ≤ i) :
      Faulty given (content ++ '\x7d' :: rest) (.missing i given)

/-- The fault of the leftmost placeholder of an expression that has one. -/
def FirstFault (given : Nat) (expr : List Char) (fault : Fault) : Prop :=
  ∃ before after, Opens expr before after ∧ Faulty given after fault ∧
    ∀ before' after' fault', Opens expr before' after' → before'.length < before.length →
      ¬ Faulty given after' fault'

/-! ## Indices -/

theorem index?_eq_some_iff {i : Nat} : index? content = some i ↔ Indexes content i := by
  have bound : i ≤ Text.word64Max ↔ i < UInt64.size := by
    have size : UInt64.size = 18446744073709551616 := rfl
    rw [Text.word64Max, size]
    omega
  rw [index?, Text.unsigned?_trimChars_eq_some_iff, Indexes, bound]

theorem Indexes.unique {i j : Nat} (first : Indexes content i) (second : Indexes content j) :
    i = j := by
  have same : some i = some j := by
    rw [← index?_eq_some_iff.2 first, index?_eq_some_iff.2 second]
  exact Option.some.inj same

/-! ## The shape of an expression -/

/-- There is one nearest place of a character. -/
theorem nearest_unique {c : Char} {front front' back back' : List Char} (free : c ∉ front)
    (free' : c ∉ front') (same : front ++ c :: back = front' ++ c :: back') :
    front = front' ∧ back = back' := by
  induction front generalizing front' with
  | nil =>
      cases front' with
      | nil => exact ⟨rfl, (List.cons.inj same).2⟩
      | cons d ds => exact absurd ((List.cons.inj same).1 ▸ List.mem_cons_self) free'
  | cons d ds ih =>
      cases front' with
      | nil => exact absurd ((List.cons.inj same).1 ▸ List.mem_cons_self) free
      | cons e es =>
          obtain ⟨rfl, rest⟩ := List.cons.inj same
          obtain ⟨rfl, behind⟩ :=
            ih (fun within => free (List.mem_cons_of_mem _ within))
              (fun within => free' (List.mem_cons_of_mem _ within)) rest
          exact ⟨rfl, behind⟩

/-- An expression is empty, or starts with a character of its text, a placeholder, or a brace that
nothing closes. -/
@[elab_as_elim]
theorem expression_induction {motive : List Char → Prop} (nil : motive [])
    (text : ∀ c cs, c ≠ '\x7b' → motive cs → motive (c :: cs))
    (placeholder : ∀ content cs, '\x7d' ∉ content → motive cs →
      motive ('\x7b' :: content ++ '\x7d' :: cs))
    (unclosed : ∀ after, '\x7d' ∉ after → motive ('\x7b' :: after)) (cs : List Char) :
    motive cs := by
  -- A placeholder takes many characters at once, so the induction is on the length.
  induction length : cs.length using Nat.strongRecOn generalizing cs with
  | ind n ih =>
      cases cs with
      | nil => exact nil
      | cons c cs =>
          by_cases opening : c = '\x7b'
          · subst opening
            by_cases closes : '\x7d' ∈ cs
            · obtain ⟨content, rest, rfl, nearest⟩ := List.eq_append_cons_of_mem closes
              have shorter : rest.length < n := by
                simp only [List.length_cons, List.length_append] at length
                omega
              exact placeholder content rest nearest (ih _ shorter rest rfl)
            · exact unclosed cs closes
          · have shorter : cs.length < n := by
              rw [List.length_cons] at length
              omega
            exact text c cs opening (ih _ shorter cs rfl)

/-! ## Where placeholders open -/

section

variable {c : Char} {before : List Char}

theorem opens_nil : ¬ Opens [] before after := by
  rintro ⟨whole, -⟩
  cases before <;> cases whole

theorem opens_text (plain : c ≠ '\x7b') :
    Opens (c :: cs) before after ↔ ∃ rest, before = c :: rest ∧ Opens cs rest after := by
  constructor
  · rintro ⟨whole, outside⟩
    cases outside with
    | start => exact absurd (List.cons.inj whole).1 plain
    | text _ rest =>
        obtain ⟨rfl, behind⟩ := List.cons.inj whole
        exact ⟨_, rfl, behind, rest⟩
    | placeholder => exact absurd (List.cons.inj whole).1 plain
  · rintro ⟨rest, rfl, rfl, outside⟩
    exact ⟨rfl, .text plain outside⟩

theorem opens_placeholder (nearest : '\x7d' ∉ content) :
    Opens ('\x7b' :: content ++ '\x7d' :: cs) before after ↔
      (before = [] ∧ after = content ++ '\x7d' :: cs) ∨
        ∃ rest, before = '\x7b' :: content ++ '\x7d' :: rest ∧ Opens cs rest after := by
  constructor
  · rintro ⟨whole, outside⟩
    cases outside with
    | start => exact .inl ⟨rfl, (List.cons.inj whole).2.symm⟩
    | text plain => exact absurd (List.cons.inj whole).1.symm plain
    | @placeholder content' rest nearest' outside =>
        simp only [List.cons_append, List.append_assoc, List.cons.injEq, true_and] at whole
        obtain ⟨rfl, found⟩ := nearest_unique nearest nearest' whole
        exact .inr ⟨rest, rfl, found, outside⟩
  · rintro (⟨rfl, rfl⟩ | ⟨rest, rfl, rfl, outside⟩)
    · exact ⟨rfl, .start⟩
    · exact ⟨by simp, .placeholder nearest outside⟩

theorem opens_unclosed (unclosed : '\x7d' ∉ cs) :
    Opens ('\x7b' :: cs) before after ↔ before = [] ∧ after = cs := by
  constructor
  · rintro ⟨whole, outside⟩
    cases outside with
    | start => exact ⟨rfl, (List.cons.inj whole).2.symm⟩
    | text plain => exact absurd (List.cons.inj whole).1.symm plain
    | placeholder =>
        rw [(List.cons.inj whole).2] at unclosed
        simp at unclosed
  · rintro ⟨rfl, rfl⟩
    exact ⟨rfl, .start⟩

end

/-! ## Faults -/

theorem faulty_unclosed {given : Nat} {fault : Fault} (unclosed : '\x7d' ∉ after) :
    Faulty given after fault ↔ fault = .unterminated := by
  constructor
  · intro faulty
    cases faulty with
    | unterminated => rfl
    | malformed => simp at unclosed
    | missing => simp at unclosed
  · rintro rfl
    exact .unterminated unclosed

/-- What is wrong with a placeholder is a matter of what stands between its braces. -/
theorem faulty_closed {given : Nat} {fault : Fault} (nearest : '\x7d' ∉ content)
    (rest : List Char) :
    Faulty given (content ++ '\x7d' :: rest) fault ↔
      ((∀ i, ¬ Indexes content i) ∧ fault = .malformed (String.ofList content)) ∨
        ∃ i, Indexes content i ∧ given ≤ i ∧ fault = .missing i given := by
  constructor
  · intro faulty
    generalize whole : content ++ '\x7d' :: rest = after at faulty
    cases faulty with
    | unterminated unclosed =>
        rw [← whole] at unclosed
        simp at unclosed
    | malformed nearest' other =>
        obtain ⟨rfl, -⟩ := nearest_unique nearest nearest' whole
        exact .inl ⟨other, rfl⟩
    | missing nearest' index beyond =>
        obtain ⟨rfl, -⟩ := nearest_unique nearest nearest' whole
        exact .inr ⟨_, index, beyond, rfl⟩
  · rintro (⟨other, rfl⟩ | ⟨i, index, beyond, rfl⟩)
    · exact .malformed nearest other
    · exact .missing nearest index beyond

theorem Faulty.unique {given : Nat} {fault fault' : Fault} (first : Faulty given after fault)
    (second : Faulty given after fault') : fault = fault' := by
  cases first with
  | unterminated unclosed => exact ((faulty_unclosed unclosed).1 second).symm
  | malformed nearest other =>
      obtain ⟨-, rfl⟩ | ⟨i, index, -⟩ := (faulty_closed nearest _).1 second
      · rfl
      · exact absurd index (other i)
  | missing nearest index beyond =>
      obtain ⟨other, -⟩ | ⟨i, index', -, rfl⟩ := (faulty_closed nearest _).1 second
      · exact absurd index (other _)
      · rw [index.unique index']

theorem FirstFault.unique {given : Nat} {fault fault' : Fault} (first : FirstFault given cs fault)
    (second : FirstFault given cs fault') : fault = fault' := by
  obtain ⟨before, after, opens, faulty, least⟩ := first
  obtain ⟨before', after', opens', faulty', least'⟩ := second
  have length : before.length = before'.length := by
    have not_after : ¬ before'.length < before.length := fun less =>
      least _ _ _ opens' less faulty'
    have not_before : ¬ before.length < before'.length := fun less =>
      least' _ _ _ opens less faulty
    omega
  obtain ⟨-, rest⟩ := List.append_inj (opens.1.symm.trans opens'.1) length
  obtain rfl := (List.cons.inj rest).2
  exact faulty.unique faulty'

/-! ## Filling in, piece by piece -/

theorem argument_eq_ok_iff {arg : String} :
    argument args content = .ok arg ↔ ∃ i, Indexes content i ∧ args[i]? = some arg := by
  simp only [← index?_eq_some_iff]
  unfold argument
  cases index? content with
  | none => simp
  | some i => cases found : args[i]? <;> simp [found]

theorem argument_eq_error_iff {fault : Fault} (nearest : '\x7d' ∉ content) (rest : List Char) :
    argument args content = .error fault ↔
      Faulty args.length (content ++ '\x7d' :: rest) fault := by
  rw [faulty_closed nearest]
  simp only [← index?_eq_some_iff]
  unfold argument
  cases index? content with
  | none => simp [eq_comm]
  | some i =>
      cases found : args[i]? with
      | none =>
          have beyond : args.length ≤ i := List.getElem?_eq_none_iff.1 found
          simp [beyond, eq_comm]
      | some arg =>
          have within : i < args.length := (List.getElem?_eq_some_iff.1 found).1
          simp [found, Nat.not_le.2 within]

theorem fill_text {c : Char} (plain : c ≠ '\x7b') (cs : List Char) :
    fill args none (c :: cs) = (fill args none cs).map (c :: ·) := by
  rw [fill, if_neg plain]

theorem fill_placeholder (nearest : '\x7d' ∉ content) (cs : List Char) :
    fill args none ('\x7b' :: content ++ '\x7d' :: cs) =
      (argument args content).bind fun arg =>
        (fill args none cs).map (escapeChars arg.toList ++ ·) := by
  -- What was read of the placeholder stands in front of what is still to come of it.
  have inside (seen : List Char) : fill args (some seen) (content ++ '\x7d' :: cs) =
      (argument args (seen.reverse ++ content)).bind fun arg =>
        (fill args none cs).map (escapeChars arg.toList ++ ·) := by
    induction content generalizing seen with
    | nil =>
        rw [List.nil_append, List.append_nil, fill, if_pos rfl]
        cases argument args seen.reverse <;> rfl
    | cons c content ih =>
        have further : c ≠ '\x7d' := fun closing => nearest (closing ▸ List.mem_cons_self)
        have behind : '\x7d' ∉ content := fun within => nearest (List.mem_cons_of_mem _ within)
        rw [List.cons_append, fill, if_neg further, ih behind, List.reverse_cons,
          List.append_assoc, List.singleton_append]
  rw [List.cons_append, fill, if_pos rfl, inside]
  rfl

theorem fill_unclosed (unclosed : '\x7d' ∉ after) :
    fill args none ('\x7b' :: after) = .error .unterminated := by
  have inside (seen : List Char) : fill args (some seen) after = .error .unterminated := by
    induction after generalizing seen with
    | nil => rfl
    | cons c after ih =>
        have further : c ≠ '\x7d' := fun closing => unclosed (closing ▸ List.mem_cons_self)
        rw [fill, if_neg further]
        exact ih (fun within => unclosed (List.mem_cons_of_mem _ within)) _
  rw [fill, if_pos rfl, inside]

/-! ## What comes of an expression -/

theorem fill_eq_ok_iff {out : List Char} : fill args none cs = .ok out ↔ Fills args cs out := by
  constructor
  · intro filled
    induction cs using expression_induction generalizing out with
    | nil =>
        obtain rfl : [] = out := Except.ok.inj filled
        exact .done
    | text c cs plain ih =>
        rw [fill_text plain] at filled
        cases rest : fill args none cs with
        | error fault => simp [rest, Except.map] at filled
        | ok behind =>
            obtain rfl : c :: behind = out := by simpa [rest, Except.map] using filled
            exact .text plain (ih rest)
    | placeholder content cs nearest ih =>
        rw [fill_placeholder nearest] at filled
        cases found : argument args content with
        | error fault => simp [found, Except.bind] at filled
        | ok arg =>
            cases rest : fill args none cs with
            | error fault => simp [found, rest, Except.bind, Except.map] at filled
            | ok behind =>
                obtain rfl : escapeChars arg.toList ++ behind = out := by
                  simpa [found, rest, Except.bind, Except.map] using filled
                obtain ⟨i, index, given⟩ := argument_eq_ok_iff.1 found
                have written : (escape arg).toList = escapeChars arg.toList :=
                  String.toList_ofList
                rw [← written]
                exact .placeholder nearest index given (ih rest)
    | unclosed after unclosed =>
        rw [fill_unclosed unclosed] at filled
        cases filled
  · intro fills
    induction fills with
    | done => rfl
    | text plain _ ih => rw [fill_text plain, ih, Except.map]
    | placeholder nearest index given _ ih =>
        rw [fill_placeholder nearest, argument_eq_ok_iff.2 ⟨_, index, given⟩, ih]
        simp [Except.bind, Except.map, escape]

/-- An expression that is filled in has no placeholder at fault. -/
theorem Fills.not_faulty {out before : List Char} {fault : Fault} (fills : Fills args cs out)
    (opens : Opens cs before after) : ¬ Faulty args.length after fault := by
  induction fills generalizing before with
  | done => exact absurd opens opens_nil
  | text plain _ ih =>
      obtain ⟨rest, -, within⟩ := (opens_text plain).1 opens
      exact ih within
  | placeholder nearest index given _ ih =>
      obtain ⟨-, rfl⟩ | ⟨rest, -, within⟩ := (opens_placeholder nearest).1 opens
      · intro faulty
        have failed := (argument_eq_error_iff nearest _).2 faulty
        rw [argument_eq_ok_iff.2 ⟨_, index, given⟩] at failed
        cases failed
      · exact ih within

/-- What is reported is the leftmost fault. -/
theorem firstFault_of_fill {fault : Fault} (failed : fill args none cs = .error fault) :
    FirstFault args.length cs fault := by
  induction cs using expression_induction with
  | nil => cases failed
  | text c cs plain ih =>
      have rest : fill args none cs = .error fault := by
        rw [fill_text plain] at failed
        cases rest : fill args none cs with
        | ok behind => simp [rest, Except.map] at failed
        | error fault' => simpa [rest, Except.map] using failed
      obtain ⟨before, after, opens, faulty, least⟩ := ih rest
      refine ⟨c :: before, after, (opens_text plain).2 ⟨before, rfl, opens⟩, faulty, ?_⟩
      intro before' after' fault' opens' less
      obtain ⟨rest', rfl, within⟩ := (opens_text plain).1 opens'
      exact least _ _ _ within (Nat.lt_of_succ_lt_succ less)
  | placeholder content cs nearest ih =>
      rw [fill_placeholder nearest] at failed
      cases found : argument args content with
      | error fault' =>
          obtain rfl : fault' = fault := by simpa [found, Except.bind] using failed
          refine ⟨[], _, (opens_placeholder nearest).2 (.inl ⟨rfl, rfl⟩),
            (argument_eq_error_iff nearest cs).1 found, ?_⟩
          intro _ _ _ _ less
          exact absurd less (Nat.not_lt_zero _)
      | ok arg =>
          have rest : fill args none cs = .error fault := by
            cases rest : fill args none cs with
            | ok behind => simp [found, rest, Except.bind, Except.map] at failed
            | error fault' => simpa [found, rest, Except.bind, Except.map] using failed
          obtain ⟨before, after, opens, faulty, least⟩ := ih rest
          refine ⟨_, after, (opens_placeholder nearest).2 (.inr ⟨before, rfl, opens⟩), faulty, ?_⟩
          intro before' after' fault' opens' less
          obtain ⟨-, rfl⟩ | ⟨rest', rfl, within⟩ := (opens_placeholder nearest).1 opens'
          · -- The first placeholder is filled in, so the fault is none of its.
            rw [← argument_eq_error_iff nearest, found]
            exact fun failed => by cases failed
          · refine least _ _ _ within ?_
            simp only [List.length_append, List.length_cons] at less
            omega
  | unclosed after unclosed =>
      obtain rfl : .unterminated = fault := by
        rw [fill_unclosed unclosed] at failed
        exact Except.error.inj failed
      refine ⟨[], after, (opens_unclosed unclosed).2 ⟨rfl, rfl⟩, .unterminated unclosed, ?_⟩
      intro _ _ _ _ less
      exact absurd less (Nat.not_lt_zero _)

theorem fill_eq_error_iff {fault : Fault} :
    fill args none cs = .error fault ↔ FirstFault args.length cs fault := by
  constructor
  · exact firstFault_of_fill
  · intro first
    cases outcome : fill args none cs with
    | ok out =>
        obtain ⟨before, after, opens, faulty, -⟩ := first
        exact absurd faulty ((fill_eq_ok_iff.1 outcome).not_faulty opens)
    | error fault' => rw [(firstFault_of_fill outcome).unique first]

/-- **Filling in placeholders.**  An expression is filled in to what its text and its arguments
make of it.  That fails just when a placeholder that opens outside those before it is not closed,
holds no index, or the index of no argument; and then with the error of the leftmost of these. -/
theorem substitute_scans (expr : String) (args : List String) :
    (∀ filter, substitute expr args = .ok filter ↔ Fills args expr.toList filter.toList) ∧
    ((∃ fault, substitute expr args = .error fault) ↔
      ∃ before after fault, Opens expr.toList before after ∧ Faulty args.length after fault) ∧
    ∀ fault, (substitute expr args = .error fault ↔
        FirstFault args.length expr.toList fault) ∧
      (FirstFault args.length expr.toList fault → ∀ {κ : Type} name controls,
        (LdapDirContext.searchWithArgs name expr args controls : Act κ _ _) =
          Act.fail (.invalidData (fault.message expr))) := by
  have ok (filter : String) :
      substitute expr args = .ok filter ↔ fill args none expr.toList = .ok filter.toList := by
    rw [substitute]
    cases fill args none expr.toList with
    | ok out => simp [Except.map, ← String.toList_inj]
    | error fault => simp [Except.map]
  have error (fault : Fault) :
      substitute expr args = .error fault ↔ fill args none expr.toList = .error fault := by
    rw [substitute]
    cases fill args none expr.toList <;> simp [Except.map]
  refine ⟨fun filter => (ok filter).trans fill_eq_ok_iff, ⟨?_, ?_⟩, fun fault => ⟨?_, ?_⟩⟩
  · rintro ⟨fault, failed⟩
    obtain ⟨before, after, opens, faulty, -⟩ := fill_eq_error_iff.1 ((error fault).1 failed)
    exact ⟨before, after, fault, opens, faulty⟩
  · rintro ⟨before, after, fault, opens, faulty⟩
    cases outcome : fill args none expr.toList with
    | ok out => exact absurd faulty ((fill_eq_ok_iff.1 outcome).not_faulty opens)
    | error fault' => exact ⟨fault', (error fault').2 outcome⟩
  · rw [error, fill_eq_error_iff]
  · intro first κ name controls
    rw [LdapDirContext.searchWithArgs, (error fault).2 (fill_eq_error_iff.2 first)]

/-- A brace outside the placeholders stays, and so does the text of an argument; of two faults the
left one is reported. -/
theorem substitute_scans_of_two :
    Fills ["\x7b1\x7d*"] "(cn=\x7b +00 \x7d)\x7d".toList "(cn=\x7b1\x7d\\2a)\x7d".toList ∧
    FirstFault 1 "\x7b0\x7d\x7b1\x7d\x7bx\x7d".toList (.missing 1 1) ∧
    ∀ name controls,
      (LdapDirContext.searchWithArgs name "\x7b0\x7d\x7b1\x7d\x7bx\x7d" ["a"] controls :
          Act Unit _ _) =
        Act.fail (.invalidData
          "filter '\x7b0\x7d\x7b1\x7d\x7bx\x7d' references argument 1 but only 1 given") := by
  have filled : substitute "(cn=\x7b +00 \x7d)\x7d" ["\x7b1\x7d*"] =
      .ok "(cn=\x7b1\x7d\\2a)\x7d" := by rfl
  have failed : substitute "\x7b0\x7d\x7b1\x7d\x7bx\x7d" ["a"] = .error (.missing 1 1) := by rfl
  obtain ⟨reported, search⟩ :=
    (substitute_scans "\x7b0\x7d\x7b1\x7d\x7bx\x7d" ["a"]).2.2 (.missing 1 1)
  have first := reported.1 failed
  exact ⟨((substitute_scans _ _).1 _).1 filled, first, search first⟩

end ManagedLdap.Filter
