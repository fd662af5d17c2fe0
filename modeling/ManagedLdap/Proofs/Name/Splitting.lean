/-
# ManagedLdap.Proofs.Name.Splitting -- taking a composed name apart

`splitRdn` reads escapes; the trimming in `compose` does not.  A component may end in a blank
character that a backslash makes part of its value, and trimming takes the character and leaves the
backslash, which then escapes the comma that `compose` puts behind it.

`bare` is what a component is meant to keep: all but the blank characters at its ends that are not
escaped (`RdnText.bared`).  `RdnText.trimRightChars_cases` compares the two: they agree, or the
trimmed text is the bare one without the escaped blank character at its end.  In the first case
`splitRdn` undoes `compose`; in the second it goes on to the first comma of the parent, and answers
all before that as one component (`splitRdn_append`).
-/
import ManagedLdap.Proofs.Name.Components
import ManagedLdap.Proofs.Name.Composition

namespace ManagedLdap.Name

set_option autoImplicit false

open Text (trim isBlank trimChars trimRightChars Trimmed)

variable {cs front : List Char}

/-! ## Components without what stands around them -/

/-- A text without the blank characters at its end that no backslash escapes. -/
def bareEnd : List Char → List Char
  | [] => []
  | '\\' :: c :: cs => '\\' :: c :: bareEnd cs
  | c :: cs => if bareEnd cs = [] ∧ isBlank c = true then [] else c :: bareEnd cs

/-- A name without the blank characters at its ends that no backslash escapes. -/
def bare (rdn : String) : String := String.ofList (bareEnd (rdn.toList.dropWhile isBlank))

/-- The last character is blank. -/
def EndsBlank (cs : List Char) : Prop := ∃ c ∈ cs.getLast?, isBlank c = true

/-- One text is another without the blank characters at its ends, as far as none is escaped. -/
structure Bared (whole rdn : List Char) : Prop where
  text : RdnText rdn
  parts : ∃ left right, whole = left ++ rdn ++ right ∧ ∀ c ∈ left ++ right, isBlank c = true
  start : ∀ c ∈ rdn.head?, isBlank c = false
  finish : EndsBlank rdn → ∃ value blank, RdnText value ∧ rdn = value ++ ['\\', blank]

theorem bareEnd_cons {c : Char} (solid : c ≠ '\\') (cs : List Char) :
    bareEnd (c :: cs) = if bareEnd cs = [] ∧ isBlank c = true then [] else c :: bareEnd cs :=
  bareEnd.eq_3 c cs fun _ _ backslash _ => solid backslash

/-- What a component is bared of are blank characters at its end. -/
theorem RdnText.exists_bareEnd_append (text : RdnText cs) :
    ∃ blanks, cs = bareEnd cs ++ blanks ∧ ∀ c ∈ blanks, isBlank c = true := by
  induction text with
  | nil => exact ⟨[], rfl, fun _ none => by cases none⟩
  | @plain c cs solid _ _ ih =>
      obtain ⟨blanks, parts, blank⟩ := ih
      rw [bareEnd_cons solid]
      split
      · next cut =>
          refine ⟨c :: cs, rfl, List.forall_mem_cons.2 ⟨cut.2, ?_⟩⟩
          rwa [parts, cut.1]
      · exact ⟨blanks, congrArg (c :: ·) parts, blank⟩
  | escape c _ ih =>
      obtain ⟨blanks, parts, blank⟩ := ih
      exact ⟨blanks, congrArg ('\\' :: c :: ·) parts, blank⟩

/-- Blank characters at the start of a component are not escaped. -/
theorem RdnText.dropWhile_isBlank (text : RdnText cs) : RdnText (cs.dropWhile isBlank) := by
  induction text with
  | nil => exact .nil
  | plain solid inside rest ih =>
      rw [List.dropWhile_cons]
      split
      · exact ih
      · exact .plain solid inside rest
  | escape c rest _ => exact .escape c rest

/-! ## What trimming leaves of a component -/

/-- Trimming a component bares it, or takes an escaped blank character from the bare one and leaves
the backslash. -/
theorem RdnText.trimRightChars_cases (text : RdnText cs) :
    (RdnText (trimRightChars cs) ∧ bareEnd cs = trimRightChars cs) ∨
      ∃ rest blank, RdnText rest ∧ isBlank blank = true ∧ trimRightChars cs = rest ++ ['\\'] ∧
        bareEnd cs = rest ++ ['\\', blank] := by
  induction text with
  | nil => exact .inl ⟨.nil, rfl⟩
  | @plain c cs solid inside _ ih =>
      rw [Text.trimRightChars_cons, bareEnd_cons solid]
      obtain ⟨kept, same⟩ | ⟨rest, blank, kept, isblank, trimmed, bared⟩ := ih
      · rw [same]
        split
        · exact .inl ⟨.nil, rfl⟩
        · exact .inl ⟨.plain solid inside kept, rfl⟩
      · rw [trimmed, bared, if_neg (by simp), if_neg (by simp)]
        exact .inr ⟨c :: rest, blank, .plain solid inside kept, isblank, rfl, rfl⟩
  | @escape c cs _ ih =>
      rw [Text.trimRightChars_cons, if_neg (fun both => absurd both.2 (by decide)),
        Text.trimRightChars_cons, bareEnd]
      obtain ⟨kept, same⟩ | ⟨rest, blank, kept, isblank, trimmed, bared⟩ := ih
      · rw [same]
        split
        · -- Only blank characters come after the escaped one, which is blank itself.
          next cut =>
            rw [cut.1]
            exact .inr ⟨[], c, .nil, cut.2, rfl, rfl⟩
        · exact .inl ⟨.escape c kept, rfl⟩
      · rw [trimmed, bared, if_neg (by simp)]
        exact .inr ⟨'\\' :: c :: rest, blank, .escape c kept, isblank, rfl, rfl⟩

/-- The same of a whole name. -/
theorem RdnText.trim_cases {rdn : String} (text : RdnText rdn.toList) :
    (RdnText (trim rdn).toList ∧ bare rdn = trim rdn) ∨
      ∃ rest blank, RdnText rest ∧ isBlank blank = true ∧
        (trim rdn).toList = rest ++ ['\\'] ∧ (bare rdn).toList = rest ++ ['\\', blank] := by
  rw [Text.toList_trim, bare, trim, String.toList_ofList, String.ofList_inj]
  exact text.dropWhile_isBlank.trimRightChars_cases

theorem not_endsBlank_trim (rdn : String) : ¬ EndsBlank (trim rdn).toList := by
  rintro ⟨c, last, isblank⟩
  exact absurd ((Text.trimmed_trim rdn).finish c last) (by simp [isblank])

theorem RdnText.bared {rdn : String} (text : RdnText rdn.toList) :
    Bared rdn.toList (bare rdn).toList := by
  have parts : ∃ left right, rdn.toList = left ++ (bare rdn).toList ++ right ∧
      ∀ c ∈ left ++ right, isBlank c = true := by
    obtain ⟨right, whole, blank⟩ := text.dropWhile_isBlank.exists_bareEnd_append
    refine ⟨rdn.toList.takeWhile isBlank, right, ?_, fun c within => ?_⟩
    · rw [bare, String.toList_ofList, List.append_assoc, ← whole, List.takeWhile_append_dropWhile]
    · obtain left | right := List.mem_append.1 within
      · exact List.all_eq_true.1 List.all_takeWhile c left
      · exact blank c right
  have trimmed := Text.trimmed_trim rdn
  obtain ⟨kept, same⟩ | ⟨rest, blank, front, _, spelt, bared⟩ := text.trim_cases
  · rw [same] at parts ⊢
    exact ⟨kept, parts, trimmed.start, fun ends => absurd ends (not_endsBlank_trim rdn)⟩
  · rw [spelt] at trimmed
    rw [bared] at parts ⊢
    refine ⟨front.append (.escape blank .nil), parts, fun c first => trimmed.start c ?_,
      fun _ => ⟨rest, blank, front, rfl⟩⟩
    cases rest <;> exact first

/-! ## The first component of a joined name -/

/-- What stands behind the text of a component is taken apart as if it stood alone, and the text is
put before its first component. -/
theorem splitRdn_append (text : RdnText front) (trimmed : Trimmed front) (some : front ≠ [])
    {name : String} (lone : Trimmed name.toList) :
    splitRdn (String.ofList front ++ name) =
      (String.ofList front ++ (splitRdn name).1, (splitRdn name).2) := by
  have trim_append {cs : List Char} (start : ∀ c ∈ cs.head?, isBlank c = false) :
      trim (String.ofList (front ++ cs)) = String.ofList front ++ trim (String.ofList cs) := by
    refine String.toList_inj.1 ?_
    simp only [Text.toList_trim, String.toList_append, String.toList_ofList]
    exact trimmed.trimChars_append some start
  unfold splitRdn
  rw [String.toList_append, String.toList_ofList, text.splitComma_append]
  cases found : splitComma false name.toList with
  | none =>
      have whole := trim_append lone.start
      rw [String.ofList_toList, String.ofList_append, String.ofList_toList] at whole
      exact Prod.ext whole rfl
  | some parts =>
      rw [(rdnText_of_splitComma found).1] at lone
      exact Prod.ext (trim_append lone.front) rfl

/-! ## Composed names -/

section

variable {rdn parent : String}

/-- A component whose trimmed text escapes nothing comes back out of what it is composed to. -/
theorem splitRdn_compose_of_rdnText (text : RdnText (trim rdn).toList) (named : trim rdn ≠ "")
    (below : trim parent ≠ "") : splitRdn (compose rdn parent) = (trim rdn, trim parent) := by
  rw [compose_below named below, splitRdn, toList_comma, text.splitComma_eq]
  simp only [String.ofList_toList, Text.trim_trim]

/-- A component whose trimmed text ends in the backslash of an escape takes the first component of
what it is composed with for a part of itself. -/
theorem splitRdn_compose_of_escape {rest : List Char} (text : RdnText rest)
    (spelt : (trim rdn).toList = rest ++ ['\\']) (named : trim rdn ≠ "")
    (below : trim parent ≠ "") :
    splitRdn (compose rdn parent) =
      (trim rdn ++ "," ++ (splitRdn (trim parent)).1, (splitRdn (trim parent)).2) := by
  have front : String.ofList (rest ++ ['\\', ',']) = trim rdn ++ "," := by
    refine String.toList_inj.1 ?_
    rw [String.toList_append, spelt, String.toList_ofList, List.append_assoc]
    rfl
  have joined : RdnText (rest ++ ['\\', ',']) := text.append (.escape ',' .nil)
  have trimmed : Trimmed (rest ++ ['\\', ',']) := by
    have start := (Text.trimmed_trim rdn).start
    rw [spelt] at start
    refine ⟨fun c first => start c ?_, fun c last => ?_⟩
    · cases rest <;> exact first
    · obtain rfl : ',' = c := by simpa [List.getLast?_append] using last
      decide
  rw [compose_below named below, ← front,
    splitRdn_append joined trimmed (by simp) (Text.trimmed_trim parent)]

/-- Where the text of a component ends in a blank character once it is bared, trimming leaves a
backslash that escapes the comma behind it; else it leaves the bare text.  The first component of a
name composed of it and its parent are what the name was composed of just in the second case, and
in the first the parent's first component is taken for a part of the name's. -/
theorem splitRdn_compose (text : RdnText rdn.toList) (named : trim rdn ≠ "")
    (below : trim parent ≠ "") :
    Bared rdn.toList (bare rdn).toList ∧
      (splitRdn (compose rdn parent) = (bare rdn, trim parent) ↔
        ¬ EndsBlank (bare rdn).toList) ∧
      (escapes (trim rdn).toList = false ↔ ¬ EndsBlank (bare rdn).toList) ∧
      (EndsBlank (bare rdn).toList → splitRdn (compose rdn parent) =
        (trim rdn ++ "," ++ (splitRdn (trim parent)).1, (splitRdn (trim parent)).2)) := by
  obtain ⟨kept, same⟩ | ⟨rest, blank, front, isblank, trimmed, bared⟩ := text.trim_cases
  · have solid : ¬ EndsBlank (bare rdn).toList := by
      rw [same]
      exact not_endsBlank_trim rdn
    refine ⟨text.bared, iff_of_true ?_ solid, iff_of_true kept.escapes_eq solid,
      fun ends => absurd ends solid⟩
    rw [splitRdn_compose_of_rdnText kept named below, same]
  · have ends : EndsBlank (bare rdn).toList := by
      refine ⟨blank, ?_, isblank⟩
      rw [bared]
      simp
    have joined := splitRdn_compose_of_escape front trimmed named below
    refine ⟨text.bared, iff_of_false (fun apart => ?_) (not_not_intro ends),
      iff_of_false ?_ (not_not_intro ends), fun _ => joined⟩
    · -- the comma stands where the escaped blank character stood
      have first := congrArg String.toList (congrArg Prod.fst (joined.symm.trans apart))
      rw [toList_comma, trimmed, bared, List.append_assoc] at first
      have comma := List.append_cancel_left first
      simp only [List.cons_append, List.nil_append, List.cons.injEq, true_and] at comma
      rw [← comma.1] at isblank
      exact absurd isblank (by decide)
    · rw [trimmed, front.escapes_backslash]
      exact Bool.noConfusion

/-- The name of Doe, John is found again as it was put in, blank characters aside; a name that ends
in an escaped one is not. -/
theorem splitRdn_compose_of_two :
    splitRdn (compose " cn=Doe\\, John " " dc=x ") = ("cn=Doe\\, John", "dc=x") ∧
      splitRdn (compose "cn=a\\ " "dc=x,dc=y") = ("cn=a\\,dc=x", "dc=y") := by
  have john : splitComma false (" cn=Doe\\, John " ++ "," ++ "").toList =
      some (" cn=Doe\\, John ".toList, []) := by decide
  have blank : splitComma false ("cn=a\\ " ++ "," ++ "").toList = some ("cn=a\\ ".toList, []) := by
    decide
  refine ⟨(splitRdn_compose (rdnText_of_splitComma john).2 (by decide) (by decide)).2.1.2 ?_,
    (splitRdn_compose (rdnText_of_splitComma blank).2 (by decide) (by decide)).2.2.2 ?_⟩
  · rintro ⟨c, last, isblank⟩
    obtain rfl := Option.some.inj last
    exact absurd isblank (by decide)
  · exact ⟨' ', by decide, by decide⟩

/-- The value of one component ends in an escaped blank character.  Composed, the blank character is
gone and the comma behind it is escaped. -/
theorem compose_escapes_comma :
    RdnText "cn=a\\ ".toList ∧ trim "cn=a\\ " ≠ "" ∧ bare "cn=a\\ " = "cn=a\\ " ∧
      compose "cn=a\\ " "dc=x" = "cn=a\\,dc=x" ∧
      splitRdn (compose "cn=a\\ " "dc=x") = ("cn=a\\,dc=x", "") := by
  have found : splitComma false ("cn=a\\ " ++ "," ++ "").toList = some ("cn=a\\ ".toList, []) := by
    decide
  exact ⟨(rdnText_of_splitComma found).2, by decide, by decide, by decide, by decide⟩

end

end ManagedLdap.Name
