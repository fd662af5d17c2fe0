/-
# ManagedLdap.Proofs.Schema.Names -- the names that are read off the definition of a class

The names of a class are not read by the grammar of its definition.  The text is searched for the
first `NAME` in capitals, and what stands between quotes behind it is taken: in the parentheses
that follow, or else the first of it.

In front of the NAME field stand a parenthesis, spaces and an identifier, so where the field is
spelt in capitals the search ends there, and what is taken are its descriptors
(`names_of_field`).  Where it is not, or there is none, the search goes on through the words of the
other fields, and any word may hold those four letters: then a quoted text of another field passes
for a name (`names_eq_nil_iff`).
-/
import ManagedLdap.Ldap.Schema
import ManagedLdap.Proofs.Schema.Grammar

namespace ManagedLdap.Schema

set_option autoImplicit false

open scoped Computability

/-! ## Searching -/

/-- The part of a text behind `NAME` in which names are looked for. -/
def listing (after : List Char) : List Char :=
  match after.dropWhile Text.isBlank with
  | '(' :: list => list.takeWhile (· != ')')
  | one => one

theorem afterName_cons {c : Char} (other : c ≠ 'N') (cs : List Char) :
    afterName (c :: cs) = afterName cs := by
  rw [afterName]
  exact fun _ same _ => other same

/-- The search passes over a text without the first letter of the word. -/
theorem passed_of_notMem {cs : List Char} (absent : 'N' ∉ cs) (rest : List Char) :
    afterName (cs ++ rest) = afterName rest := by
  induction cs with
  | nil => rfl
  | cons c cs ih =>
      obtain ⟨other, further⟩ := List.ne_and_not_mem_of_not_mem_cons absent
      rw [List.cons_append, afterName_cons (Ne.symm other), ih further]

/-- The word is found behind such a text. -/
theorem afterName_append {before : List Char} (absent : 'N' ∉ before) (after : List Char) :
    afterName (before ++ ("NAME".toList ++ after)) = some after := by
  rw [passed_of_notMem absent]
  rfl

/-! ## Between quotes -/

/-- The first quoted text, and those after it. -/
theorem quoted_append {before name : List Char} (absent : '\'' ∉ before) (inside : '\'' ∉ name)
    (rest : List Char) :
    quoted (before ++ '\'' :: (name ++ '\'' :: rest)) = String.ofList name :: quoted rest := by
  rw [quoted, Text.splitOn_append absent, Text.splitOn_append inside]
  rfl

/-- Nothing is taken from a text just where it has no quote. -/
theorem quoted_eq_nil_iff (cs : List Char) : quoted cs = [] ↔ '\'' ∉ cs := by
  refine ⟨fun nothing among => ?_, fun absent => by rw [quoted, Text.splitOn_of_notMem absent]; rfl⟩
  obtain ⟨before, rest, rfl, absent⟩ := List.eq_append_cons_of_mem among
  obtain ⟨part, parts, split⟩ := List.exists_cons_of_ne_nil (Text.splitOn_ne_nil '\'' rest)
  rw [quoted, Text.splitOn_append absent, split] at nothing
  cases nothing

/-- **No name is read** just where the word is not found, or nothing is quoted behind it. -/
theorem names_eq_nil_iff (definition : String) :
    names definition = [] ↔
      ∀ after, afterName definition.toList = some after → '\'' ∉ listing after := by
  unfold names listing
  cases found : afterName definition.toList with
  | none => simp
  | some after =>
      simp only [Option.some.injEq, forall_eq']
      cases after.dropWhile Text.isBlank with
      | nil => exact iff_of_true rfl List.not_mem_nil
      | cons c cs =>
          by_cases opening : c = '('
          · subst opening
            exact quoted_eq_nil_iff _
          · simp only [opening, List.cons.injEq, false_and, imp_false, implies_true,
              not_false_eq_true]
            rw [← quoted_eq_nil_iff, List.take_eq_nil_iff]
            simp

/-! ## Characters of a definition -/

theorem eq_space_of_mem {cs : List Char} (blank : cs ∈ spaces) : ∀ c ∈ cs, c = ' ' := by
  obtain ⟨parts, rfl, all⟩ := Language.mem_kstar.1 blank
  intro c among
  obtain ⟨part, listed, within⟩ := List.mem_flatten.1 among
  obtain rfl : part = [' '] := all part listed
  exact List.mem_singleton.1 within

theorem eq_space_of_mem_gap {cs : List Char} (blank : cs ∈ gap) : ∀ c ∈ cs, c = ' ' := by
  obtain ⟨first, rfl, others, more, rfl⟩ := Language.mem_mul.1 blank
  exact List.forall_mem_cons.2 ⟨rfl, eq_space_of_mem more⟩

/-- No other character stands among spaces. -/
theorem notMem_of_spaces {cs : List Char} (blank : ∀ c ∈ cs, c = ' ') {d : Char} (other : d ≠ ' ') :
    d ∉ cs := fun among => other (blank d among)

theorem dropWhile_isBlank {cs : List Char} (blank : ∀ c ∈ cs, c = ' ') {d : Char}
    (solid : Text.isBlank d = false) (rest : List Char) :
    (cs ++ d :: rest).dropWhile Text.isBlank = d :: rest := by
  rw [List.dropWhile_append_of_pos fun c among => by rw [blank c among]; rfl,
    List.dropWhile_cons_of_neg (by rw [solid]; exact Bool.false_ne_true)]

/-- A descriptor holds letters, digits and hyphens. -/
theorem notMem_of_isDescriptor {cs : List Char} (named : IsDescriptor cs) {d : Char}
    (other : Filter.isKeyChar d = false) : d ∉ cs := by
  obtain ⟨c, ds, rfl, letter, key⟩ := named
  intro among
  have isKey : Filter.isKeyChar d = true := by
    rcases List.mem_cons.1 among with rfl | further
    · simp [Filter.isKeyChar, Char.isAlphanum, letter]
    · exact key d further
  rw [other] at isKey
  cases isKey

theorem notMem_of_numericOid {cs : List Char} (numbered : cs ∈ numericOid) {d : Char}
    (digit : d.isDigit = false) (point : d ≠ '.') : d ∉ cs := by
  obtain ⟨arc, arcs, rfl, -, first, further⟩ := mem_words.1 numbered
  have outside : ∀ arc, Filter.IsArc arc → d ∉ arc := by
    intro arc isArc among
    rw [isArc.digits d among] at digit
    cases digit
  intro among
  rcases List.mem_append.1 among with within | within
  · exact outside arc first within
  · obtain ⟨arc, listed, within⟩ := List.mem_flatMap.1 within
    rcases List.mem_cons.1 within with same | within
    · exact point same
    · exact outside arc (further arc listed) within

/-! ## Names of a definition -/

/-- In front of the NAME field there is no capital N. -/
theorem exists_before_of_description {Allowed : List Char → Prop} {field : Option NameField}
    {cs : List Char} (described : cs ∈ description Allowed field) :
    ∃ before part rest, cs = before ++ (part ++ rest) ∧ 'N' ∉ before ∧ part ∈ nameField field := by
  obtain ⟨_, ⟨_, ⟨_, ⟨_, ⟨_, ⟨opening, rfl, s, blank, rfl⟩, o, numbered, rfl⟩, part, named, rfl⟩,
    later, -, rfl⟩, t, -, rfl⟩, closing, -, rfl⟩ := described
  refine ⟨'(' :: (s ++ o), part, later ++ (t ++ closing), ?_, ?_, named⟩
  · simp only [List.append_assoc, List.cons_append, List.nil_append]
  · refine List.not_mem_cons_of_ne_of_not_mem (by decide) fun among => ?_
    rcases List.mem_append.1 among with within | within
    · exact notMem_of_spaces (eq_space_of_mem blank) (by decide) within
    · exact notMem_of_numericOid numbered rfl (by decide) within

/-- The names of a list are taken in their order. -/
theorem quoted_nameList {names : List String} {list : List Char} (listed : list ∈ nameList names)
    {before after : List Char} (absent : '\'' ∉ before) (none : '\'' ∉ after) :
    quoted (before ++ (list ++ after)) = names := by
  induction names generalizing before list with
  | nil =>
      obtain rfl := (Language.mem_one list).1 listed
      rw [quoted_eq_nil_iff, List.nil_append, List.mem_append]
      exact not_or.2 ⟨absent, none⟩
  | cons name names ih =>
      cases names with
      | nil =>
          obtain ⟨named, rfl⟩ := mem_words.1 listed
          have taken := quoted_append absent (notMem_of_isDescriptor named rfl) after
          rw [(quoted_eq_nil_iff after).2 none, String.ofList_toList] at taken
          simpa only [List.append_assoc, List.cons_append, List.nil_append] using taken
      | cons second names =>
          obtain ⟨_, ⟨_, ⟨named, rfl⟩, g, blank, rfl⟩, list, listed, rfl⟩ := listed
          have taken := quoted_append absent (notMem_of_isDescriptor named rfl)
            (g ++ (list ++ after))
          rw [ih listed (notMem_of_spaces (eq_space_of_mem_gap blank) (by decide)),
            String.ofList_toList] at taken
          simpa only [List.append_assoc, List.cons_append, List.nil_append] using taken

/-- No list of names holds a closing parenthesis. -/
theorem notMem_of_nameList {names : List String} {list : List Char}
    (listed : list ∈ nameList names) : ')' ∉ list := by
  induction names generalizing list with
  | nil =>
      obtain rfl := (Language.mem_one list).1 listed
      exact List.not_mem_nil
  | cons name names ih =>
      have quotedName : ∀ cs ∈ quotedName name, ')' ∉ cs := by
        rintro cs ⟨named, rfl⟩ among
        rcases List.mem_append.1 among with within | last
        · rcases List.mem_cons.1 within with same | within
          · cases same
          · exact notMem_of_isDescriptor named rfl within
        · cases List.mem_singleton.1 last
      cases names with
      | nil => exact quotedName list listed
      | cons second names =>
          obtain ⟨_, ⟨first, named, g, blank, rfl⟩, list, listed, rfl⟩ := listed
          intro among
          rcases List.mem_append.1 among with within | within
          · rcases List.mem_append.1 within with within | within
            · exact quotedName first named within
            · exact notMem_of_spaces (eq_space_of_mem_gap blank) (by decide) within
          · exact ih listed within

/-- The search ends at a NAME field in capitals. -/
theorem afterName_of_field {Allowed : List Char → Prop} {f : NameField} {cs : List Char}
    (described : cs ∈ description Allowed (some f)) (capitals : f.spelling = "NAME".toList) :
    ∃ apart list rest, apart ∈ gap ∧ list ∈ quotedNames f.names ∧
      afterName cs = some (apart ++ (list ++ rest)) := by
  obtain ⟨before, part, rest, rfl, absent, named⟩ := exists_before_of_description described
  obtain ⟨_, ⟨_, ⟨g, blank, _, rfl, rfl⟩, apart, spaced, rfl⟩, list, listed, rfl⟩ := named
  refine ⟨apart, list, rest, spaced, listed, ?_⟩
  have early : 'N' ∉ before ++ g := fun among =>
    (List.mem_append.1 among).elim absent
      (notMem_of_spaces (eq_space_of_mem_gap blank) (by decide))
  rw [← afterName_append early, capitals]
  simp only [List.append_assoc]

/-- A list ends at its closing parenthesis. -/
theorem takeWhile_closing {inside : List Char} (none : ')' ∉ inside) (rest : List Char) :
    (inside ++ ')' :: rest).takeWhile (· != ')') = inside := by
  have passes : ∀ c ∈ inside, (c != ')') = true := fun c among =>
    bne_iff_ne.2 fun same => none (same ▸ among)
  rw [List.takeWhile_append_of_pos passes, List.takeWhile_cons_of_neg (by simp), List.append_nil]

/-- **A NAME field in capitals** is read as the names it declares. -/
theorem names_of_field {Allowed : List Char → Prop} {f : NameField} {definition : String}
    (described : definition.toList ∈ description Allowed (some f))
    (capitals : f.spelling = "NAME".toList) : names definition = f.names := by
  obtain ⟨apart, list, rest, spaced, listed, found⟩ := afterName_of_field described capitals
  have blank := eq_space_of_mem_gap spaced
  rw [names, found]
  rcases listed with ⟨name, alone, named, rfl⟩ | ⟨_, ⟨_, ⟨_, ⟨_, rfl, s, inner, rfl⟩, list, listed,
    rfl⟩, t, outer, rfl⟩, _, rfl, rfl⟩
  · have behind := dropWhile_isBlank blank (d := '\'') rfl (name.toList ++ '\'' :: rest)
    have taken := quoted_append List.not_mem_nil (notMem_of_isDescriptor named rfl) rest
    simp only [List.append_assoc, List.cons_append, List.nil_append] at behind taken ⊢
    rw [behind, alone]
    change (quoted ('\'' :: (name.toList ++ '\'' :: rest))).take 1 = [name]
    rw [taken, String.ofList_toList]
    rfl
  · have before := eq_space_of_mem inner
    have after := eq_space_of_mem outer
    have behind := dropWhile_isBlank blank (d := '(') rfl (s ++ (list ++ t) ++ ')' :: rest)
    have none : ')' ∉ s ++ (list ++ t) := by
      simp only [List.mem_append, not_or]
      exact ⟨notMem_of_spaces before (by decide), notMem_of_nameList listed,
        notMem_of_spaces after (by decide)⟩
    simp only [List.append_assoc, List.cons_append, List.nil_append] at behind ⊢
    rw [behind]
    change quoted ((s ++ (list ++ (t ++ ')' :: rest))).takeWhile (· != ')')) = f.names
    have taken := takeWhile_closing none rest
    simp only [List.append_assoc] at taken
    rw [taken]
    exact quoted_nameList listed (notMem_of_spaces before (by decide))
      (notMem_of_spaces after (by decide))

/-! ## Definitions without the word -/

/-- The word `NAME` stands nowhere in a text. -/
def Unnamed (cs : List Char) : Prop := afterName cs = none

/-- A text does not begin with a letter that could end the word. -/
def Apart (cs : List Char) : Prop := ∀ c ∈ cs.head?, c ≠ 'A' ∧ c ≠ 'M' ∧ c ≠ 'E'

/-- Searching passes over a text, whatever is behind it, as long as that does not end the word. -/
def Passed (cs : List Char) : Prop := ∀ rest, Apart rest → afterName (cs ++ rest) = afterName rest

/-- What does not hold the word holds it nowhere further on. -/
theorem Unnamed.tail {c : Char} {cs : List Char} (unnamed : Unnamed (c :: cs)) :
    Unnamed cs ∧ (c = 'N' → ∀ rest, cs ≠ 'A' :: 'M' :: 'E' :: rest) := by
  rw [Unnamed, afterName.eq_def] at unnamed
  split at unnamed
  · cases unnamed
  · next other same =>
    obtain ⟨rfl, rfl⟩ := List.cons.inj same
    exact ⟨unnamed, fun first rest more => other rest first more⟩
  · next same => cases same

/-- Searching passes over a text that does not hold the word. -/
theorem Unnamed.passed {cs : List Char} (unnamed : Unnamed cs) : Passed cs := by
  intro rest apart
  induction cs with
  | nil => rfl
  | cons c cs ih =>
      obtain ⟨further, begun⟩ := unnamed.tail
      rw [List.cons_append, afterName, ih further]
      -- The word would have to end in what is behind.
      intro more first whole
      match cs, begun first with
      | [], _ =>
          obtain rfl : rest = 'A' :: 'M' :: 'E' :: more := whole
          exact (apart 'A' rfl).1 rfl
      | [a], _ =>
          obtain rfl : rest = 'M' :: 'E' :: more := (List.cons.inj whole).2
          exact (apart 'M' rfl).2.1 rfl
      | [a, b], _ =>
          obtain rfl : rest = 'E' :: more := (List.cons.inj (List.cons.inj whole).2).2
          exact (apart 'E' rfl).2.2 rfl
      | a :: b :: d :: cs, outside =>
          simp only [List.cons_append, List.cons.injEq] at whole
          obtain ⟨rfl, rfl, rfl, -⟩ := whole
          exact outside cs rfl

/-- A part of a definition that the search passes over. -/
def PassesOver (part : Language Char) : Prop := ∀ cs ∈ part, Passed cs

/-- A part of a definition that cannot end a word in front of it. -/
def StandsApart (part : Language Char) : Prop := ∀ cs ∈ part, Apart cs

/-- A part that may stand behind any word. -/
structure Passable (part : Language Char) : Prop where
  passed : PassesOver part
  apart : StandsApart part

section

variable {l m : Language Char}

theorem StandsApart.mul (first : StandsApart l) (second : StandsApart m) : StandsApart (l * m) := by
  rintro _ ⟨cs, begins, ds, goesOn, rfl⟩
  cases cs with
  | nil => exact second ds goesOn
  | cons c cs => exact first (c :: cs) begins

theorem StandsApart.optional (apart : StandsApart l) : StandsApart (Schema.optional l) := by
  rintro cs (nothing | part)
  · obtain rfl := (Language.mem_one cs).1 nothing
    exact nofun
  · exact apart cs part

theorem StandsApart.kstar (apart : StandsApart l) : StandsApart l∗ := by
  rintro cs repeated
  obtain ⟨parts, rfl, all⟩ := Language.mem_kstar.1 repeated
  clear repeated
  induction parts with
  | nil => exact nofun
  | cons part parts ih =>
      obtain ⟨first, others⟩ := List.forall_mem_cons.1 all
      rw [List.flatten_cons]
      cases part with
      | nil => exact ih others
      | cons c cs => exact apart (c :: cs) first

theorem PassesOver.one : PassesOver 1 := by
  intro cs nothing
  obtain rfl := (Language.mem_one cs).1 nothing
  exact fun _ _ => rfl

/-- Parts are passed over one after the other if the later one stands apart. -/
theorem PassesOver.mul (first : PassesOver l) (second : Passable m) : PassesOver (l * m) := by
  rintro _ ⟨cs, begins, ds, goesOn, rfl⟩ rest behind
  have between : Apart (ds ++ rest) := by
    cases ds with
    | nil => exact behind
    | cons d ds => exact second.apart (d :: ds) goesOn
  rw [List.append_assoc, first cs begins _ between, second.passed ds goesOn rest behind]

/-- A part without the first letter of the word is passed over whatever follows. -/
theorem PassesOver.skip (absent : ∀ cs ∈ l, 'N' ∉ cs) (second : PassesOver m) :
    PassesOver (l * m) := by
  rintro _ ⟨cs, begins, ds, goesOn, rfl⟩ rest behind
  rw [List.append_assoc, passed_of_notMem (absent cs begins), second ds goesOn rest behind]

theorem PassesOver.add (first : PassesOver l) (second : PassesOver m) : PassesOver (l + m) := by
  rintro cs (one | other)
  · exact first cs one
  · exact second cs other

theorem Passable.mul (first : Passable l) (second : Passable m) : Passable (l * m) :=
  ⟨first.passed.mul second, first.apart.mul second.apart⟩

theorem PassesOver.optional (passed : PassesOver l) : PassesOver (Schema.optional l) :=
  .add .one passed

theorem Passable.optional (part : Passable l) : Passable (Schema.optional l) :=
  ⟨part.passed.optional, part.apart.optional⟩

theorem Passable.kstar (part : Passable l) : Passable l∗ := by
  refine ⟨?_, part.apart.kstar⟩
  rintro cs repeated
  obtain ⟨parts, rfl, all⟩ := Language.mem_kstar.1 repeated
  clear repeated
  induction parts with
  | nil => exact fun _ _ => rfl
  | cons first parts ih =>
      obtain ⟨one, others⟩ := List.forall_mem_cons.1 all
      have later : parts.flatten ∈ l∗ := Language.join_mem_kstar others
      intro rest behind
      have between : Apart (parts.flatten ++ rest) := by
        cases more : parts.flatten with
        | nil => exact behind
        | cons d ds => exact part.apart.kstar (d :: ds) (more ▸ later)
      rw [List.flatten_cons, List.append_assoc, part.passed first one _ between,
        ih others rest behind]

end

theorem standsApart_spaces : StandsApart spaces := by
  intro cs blank c first
  rw [eq_space_of_mem blank c (List.mem_of_mem_head? first)]
  decide

theorem standsApart_sign {c : Char} (other : c ≠ 'A' ∧ c ≠ 'M' ∧ c ≠ 'E') :
    StandsApart (sign c) := by
  rintro _ rfl d first
  obtain rfl := Option.some.inj first
  exact other

theorem standsApart_sign_mul {c : Char} (other : c ≠ 'A' ∧ c ≠ 'M' ∧ c ≠ 'E')
    (m : Language Char) : StandsApart (sign c * m) := by
  rintro _ ⟨_, rfl, ds, -, rfl⟩ d first
  obtain rfl := Option.some.inj first
  exact other

theorem standsApart_gap_mul (m : Language Char) : StandsApart (gap * m) := by
  rw [gap, mul_assoc]
  exact standsApart_sign_mul (by decide) _

/-- No keyword has the first letter of the word, apart from the word itself. -/
theorem notMem_of_keyword {word : String} (other : 'n' ∉ word.toList.map Char.toLower) :
    ∀ cs ∈ keyword word, 'N' ∉ cs := by
  intro cs spelt among
  have same : cs.map Char.toLower = word.toList.map Char.toLower := spelt
  exact other (same ▸ List.mem_map.2 ⟨'N', among, rfl⟩)

theorem notMem_of_mem_spaces : ∀ cs ∈ spaces, 'N' ∉ cs := fun _ blank =>
  notMem_of_spaces (eq_space_of_mem blank) (by decide)

theorem notMem_of_gap : ∀ cs ∈ gap, 'N' ∉ cs := fun _ blank =>
  notMem_of_spaces (eq_space_of_mem_gap blank) (by decide)

theorem notMem_of_sign {c : Char} (other : c ≠ 'N') : ∀ cs ∈ sign c, 'N' ∉ cs := by
  rintro _ rfl among
  exact other (List.mem_singleton.1 among).symm

theorem notMem_mul {l m : Language Char} (first : ∀ cs ∈ l, 'N' ∉ cs)
    (second : ∀ cs ∈ m, 'N' ∉ cs) : ∀ cs ∈ l * m, 'N' ∉ cs := by
  rintro _ ⟨cs, begins, ds, goesOn, rfl⟩ among
  exact (List.mem_append.1 among).elim (first cs begins) (second ds goesOn)

theorem PassesOver.of_notMem {l : Language Char} (absent : ∀ cs ∈ l, 'N' ∉ cs) : PassesOver l :=
  fun cs among rest _ => passed_of_notMem (absent cs among) rest

/-- Whatever spaces stand in front of cannot end a word. -/
theorem passable_gap_mul {m : Language Char} (passed : PassesOver m) : Passable (gap * m) :=
  ⟨.skip notMem_of_gap passed, standsApart_gap_mul m⟩

/-- The end of a list. -/
theorem passable_closing : Passable (spaces * sign ')') where
  passed := .of_notMem (notMem_mul notMem_of_mem_spaces (notMem_of_sign (by decide)))
  apart := standsApart_spaces.mul (standsApart_sign (by decide))

theorem passesOver_oid : PassesOver (oid Unnamed) := by
  refine .add ?_ (.of_notMem fun cs numbered => notMem_of_numericOid numbered rfl (by decide))
  exact fun cs named => named.2.passed

theorem passesOver_oids : PassesOver (oids Unnamed) := by
  have further : Passable (spaces * (sign '$' * (spaces * oid Unnamed))) := by
    refine ⟨?_, standsApart_spaces.mul (standsApart_sign_mul (by decide) _)⟩
    exact .skip notMem_of_mem_spaces (.skip (notMem_of_sign (by decide))
      (.skip notMem_of_mem_spaces passesOver_oid))
  refine .add passesOver_oid ?_
  simp only [mul_assoc]
  exact .skip (notMem_of_sign (by decide)) (.skip notMem_of_mem_spaces
    (passesOver_oid.mul (further.kstar.mul passable_closing)))

theorem passesOver_quotedText : PassesOver (quotedText Unnamed) := by
  have content : PassesOver (words fun cs => IsQuotable cs ∧ cs ≠ [] ∧ Unnamed cs) :=
    fun cs quotable => quotable.2.2.passed
  rw [quotedText, mul_assoc]
  exact .skip (notMem_of_sign (by decide))
    (content.mul ⟨.of_notMem (notMem_of_sign (by decide)), standsApart_sign (by decide)⟩)

theorem passesOver_quotedTexts : PassesOver (quotedTexts Unnamed) := by
  have further := passable_gap_mul passesOver_quotedText
  refine .add passesOver_quotedText ?_
  simp only [mul_assoc]
  exact .skip (notMem_of_sign (by decide)) (.skip notMem_of_mem_spaces
    ((passesOver_quotedText.mul further.kstar).optional.mul passable_closing))

/-- A field with a keyword and what it is about. -/
theorem passable_field (word : String) (other : 'n' ∉ word.toList.map Char.toLower)
    {part : Language Char} (passed : PassesOver part) :
    Passable (optional (gap * keyword word * gap * part)) := by
  simp only [mul_assoc]
  exact (passable_gap_mul (.skip (notMem_of_keyword other) (.skip notMem_of_gap passed))).optional

theorem passable_extensions :
    Passable (gap * extension Unnamed * gap * quotedTexts Unnamed)∗ := by
  have name : PassesOver (extension Unnamed) := fun cs named => named.2.passed
  simp only [mul_assoc]
  exact (passable_gap_mul (name.mul (passable_gap_mul passesOver_quotedTexts))).kstar

/-- The fields behind the names have the word only where one of their words has it. -/
theorem passable_laterFields : Passable (laterFields Unnamed) := by
  have desc := passable_field "DESC" (by decide) passesOver_quotedText
  have obsolete : Passable (optional (gap * keyword "OBSOLETE")) :=
    (passable_gap_mul (.of_notMem (notMem_of_keyword (by decide)))).optional
  have sup := passable_field "SUP" (by decide) passesOver_oids
  have kind : Passable
      (optional (gap * (keyword "ABSTRACT" + keyword "STRUCTURAL" + keyword "AUXILIARY"))) :=
    (passable_gap_mul (.add (.add (.of_notMem (notMem_of_keyword (by decide)))
      (.of_notMem (notMem_of_keyword (by decide))))
      (.of_notMem (notMem_of_keyword (by decide))))).optional
  have must := passable_field "MUST" (by decide) passesOver_oids
  have may := passable_field "MAY" (by decide) passesOver_oids
  exact (((((desc.mul obsolete).mul sup).mul kind).mul must).mul may).mul passable_extensions

/-- The keyword in another spelling is not what is searched for. -/
theorem unnamed_of_spelling {spelling : List Char} (spelt : spelling ∈ keyword "NAME")
    (other : spelling ≠ "NAME".toList) : Unnamed spelling := by
  have same : spelling.map Char.toLower = ['n', 'a', 'm', 'e'] := spelt
  have four : spelling.length = 4 := by rw [← List.length_map Char.toLower, same]; rfl
  obtain ⟨a, b, c, d, rfl⟩ := List.length_eq_four.1 four
  rw [Unnamed, afterName.eq_def]
  split
  · next rest whole =>
    obtain ⟨rfl, rfl, rfl, rfl, -⟩ : a = 'N' ∧ b = 'A' ∧ c = 'M' ∧ d = 'E' ∧ rest = [] := by
      simpa [eq_comm] using whole
    exact absurd rfl other
  · next rest _ whole =>
    obtain rfl : [b, c, d] = rest := (List.cons.inj whole).2
    simp [afterName]
  · next whole => cases whole

theorem passesOver_quotedName {name : String} (unnamed : Unnamed name.toList) :
    PassesOver (quotedName name) := by
  rintro _ ⟨-, rfl⟩ rest -
  have behind : Apart ('\'' :: rest) := by
    rintro c ⟨⟩
    decide
  rw [List.cons_append, List.cons_append, List.append_assoc, List.singleton_append,
    afterName_cons (by decide), unnamed.passed _ behind, afterName_cons (by decide)]

theorem passesOver_nameList {names : List String} (unnamed : ∀ n ∈ names, Unnamed n.toList) :
    PassesOver (nameList names) := by
  induction names with
  | nil => exact .one
  | cons name names ih =>
      obtain ⟨first, others⟩ := List.forall_mem_cons.1 unnamed
      cases names with
      | nil => exact passesOver_quotedName first
      | cons second names =>
          change PassesOver (quotedName name * gap * nameList (second :: names))
          rw [mul_assoc]
          exact (passesOver_quotedName first).mul (passable_gap_mul (ih others))

theorem passesOver_quotedNames {names : List String} (unnamed : ∀ n ∈ names, Unnamed n.toList) :
    PassesOver (quotedNames names) := by
  have alone : PassesOver (words fun cs => ∃ name, names = [name] ∧ cs ∈ quotedName name) := by
    rintro cs ⟨name, rfl, named⟩
    exact passesOver_quotedName (unnamed name List.mem_cons_self) cs named
  refine .add alone ?_
  simp only [mul_assoc]
  exact .skip (notMem_of_sign (by decide)) (.skip notMem_of_mem_spaces
    ((passesOver_nameList unnamed).mul passable_closing))

/-- The NAME field is not there, or cannot be found. -/
def Hidden (field : Option NameField) : Prop :=
  ∀ f, field = some f → f.spelling ≠ "NAME".toList ∧ ∀ n ∈ f.names, Unnamed n.toList

theorem hidden_none : Hidden none := fun _ given => nomatch given

theorem passesOver_nameField {field : Option NameField} (hidden : Hidden field) :
    PassesOver (nameField field) := by
  cases field with
  | none => exact .one
  | some f =>
      obtain ⟨other, unnamed⟩ := hidden f rfl
      have spelling : PassesOver {f.spelling} := by
        rintro _ rfl
        exact (unnamed_of_spelling f.spelt other).passed
      simp only [nameField, mul_assoc]
      exact .skip notMem_of_gap (spelling.mul (passable_gap_mul (passesOver_quotedNames unnamed)))

/-- **A definition whose NAME field is not there, or not in capitals,** and whose own words do not
hold the word, is read as one without names. -/
theorem names_of_hidden {field : Option NameField} {definition : String} (hidden : Hidden field)
    (described : definition.toList ∈ description Unnamed field) : names definition = [] := by
  have passed : PassesOver (description Unnamed field) := by
    have oid : ∀ cs ∈ numericOid, 'N' ∉ cs := fun cs numbered =>
      notMem_of_numericOid numbered rfl (by decide)
    have behind := passable_laterFields.mul passable_closing
    simp only [description, mul_assoc]
    exact .skip (notMem_of_sign (by decide)) (.skip notMem_of_mem_spaces (.skip oid
      ((passesOver_nameField hidden).mul behind)))
  have unfound := passed _ described [] nofun
  rw [List.append_nil] at unfound
  rw [names, unfound]
  rfl

end ManagedLdap.Schema
