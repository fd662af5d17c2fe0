/-
# ManagedLdap.Proofs.Filter.Reading -- a set of attributes is read back as what it asks for

`ofAttributes` writes a filter, and the client reads it before anything is sent.  Between the two
nothing may be lost or take on another meaning: an empty value must not become a presence, nor a
star in a value a pattern, nor a parenthesis the end of an item.

Reading goes from the left, so each part is read in front of whatever may follow it.  A name ends
where no character of a name follows (`readDescription_append`), a value at its parenthesis
(`readValue_escape_append`), and a text that `Reads` as a tree does so in front of any rest, so
that a list of such texts is read one after the other (`readFilters_flatten`).
-/
import Mathlib.Data.List.Forall2
import ManagedLdap.Proofs.Filter.Placeholders
import ManagedLdap.Proofs.Ldap.SearchRequests
import ManagedLdap.Proofs.Text.Decimal
import ManagedLdap.Proofs.Text.Runs

namespace ManagedLdap.Filter

set_option autoImplicit false

open Text (Stops stops_cons takeWhile_dropWhile_append)

/-! ## Attribute descriptions -/

/-- A component of an object identifier. -/
structure IsArc (arc : List Char) : Prop where
  ne_nil : arc ≠ []
  digits : ∀ c ∈ arc, c.isDigit = true
  /-- A zero stands alone. -/
  lead : arc.head? = some '0' → arc = ['0']

/-- The type of an attribute: a short name or an object identifier. -/
inductive IsType : List Char → Prop
  | descriptor {c : Char} {cs : List Char} (letter : c.isAlpha = true)
      (key : ∀ d ∈ cs, isKeyChar d = true) : IsType (c :: cs)
  | oid {arc : List Char} {arcs : List (List Char)} (first : IsArc arc)
      (further : ∀ a ∈ arcs, IsArc a) : IsType (arc ++ arcs.flatMap ('.' :: ·))

/-- An attribute description as RFC 4512 has it: a type, and options after semicolons. -/
def IsDescription (name : String) : Prop :=
  ∃ (type : List Char) (options : List (List Char)),
    name.toList = type ++ options.flatMap (';' :: ·) ∧ IsType type ∧
    ∀ option ∈ options, option ≠ [] ∧ ∀ c ∈ option, isKeyChar c = true

theorem isAlpha_eq_false_of_isDigit {c : Char} (digit : c.isDigit = true) : c.isAlpha = false := by
  have range := Text.range_of_isDigit digit
  have upper : c.isUpper = false := by
    refine decide_eq_false ?_
    rintro ⟨above, -⟩
    have : 65 ≤ c.toNat := UInt32.le_iff_toNat_le.1 above
    omega
  have lower : c.isLower = false := by
    refine Bool.and_eq_false_iff.2 (.inl ?_)
    refine decide_eq_false ?_
    intro above
    have : 97 ≤ c.toNat := UInt32.le_iff_toNat_le.1 above
    omega
  exact Bool.or_eq_false_iff.2 ⟨upper, lower⟩

theorem isKeyChar_of_isDigit {c : Char} (digit : c.isDigit = true) : isKeyChar c = true := by
  simp [isKeyChar, Char.isAlphanum, digit]

theorem IsType.head {type : List Char} (isType : IsType type) :
    ∃ c cs, type = c :: cs ∧ c.isAlphanum = true := by
  cases isType with
  | descriptor letter _ => exact ⟨_, _, rfl, by simp [Char.isAlphanum, letter]⟩
  | @oid arc arcs first _ =>
      obtain ⟨d, ds, rfl⟩ := List.exists_cons_of_ne_nil first.ne_nil
      have digit : d.isDigit = true := first.digits d List.mem_cons_self
      exact ⟨d, _, List.cons_append, by simp [Char.isAlphanum, digit]⟩

/-- A short name without options. -/
theorem isDescription_of_key {name : String} {c : Char} {cs : List Char}
    (spelt : name.toList = c :: cs) (letter : c.isAlpha = true) (key : cs.all isKeyChar = true) :
    IsDescription name :=
  ⟨c :: cs, [], by simpa using spelt, .descriptor letter (List.all_eq_true.1 key), by simp⟩

/-! ### Reading them -/

section

variable {rest : List Char}

theorem readDescriptor_append {c : Char} {cs : List Char} (letter : c.isAlpha = true)
    (key : ∀ d ∈ cs, isKeyChar d = true) (stops : Stops isKeyChar rest) :
    readDescriptor (c :: cs ++ rest) = some (c :: cs, rest) := by
  obtain ⟨run, behind⟩ := takeWhile_dropWhile_append key stops
  rw [List.cons_append, readDescriptor, if_pos letter, run, behind]

theorem readArc_append {arc : List Char} (isArc : IsArc arc) (stops : Stops Char.isDigit rest) :
    readArc (arc ++ rest) = some (arc, rest) := by
  obtain ⟨run, behind⟩ := takeWhile_dropWhile_append isArc.digits stops
  unfold readArc
  rw [run, behind]
  split
  · exact absurd rfl isArc.ne_nil
  · have alone := isArc.lead rfl
    simp at alone
  · rfl

theorem readArcs_append {arcs : List (List Char)} (areArcs : ∀ arc ∈ arcs, IsArc arc)
    (digits : Stops Char.isDigit rest) (point : Stops (· == '.') rest) {fuel : Nat}
    (enough : arcs.length ≤ fuel) :
    readArcs fuel (arcs.flatMap ('.' :: ·) ++ rest) = some (arcs.flatMap ('.' :: ·), rest) := by
  induction arcs generalizing fuel with
  | nil =>
      rw [List.flatMap_nil, List.nil_append]
      unfold readArcs
      split
      · simp [stops_cons] at point
      · rfl
  | cons arc arcs ih =>
      obtain ⟨first, further⟩ := List.forall_mem_cons.1 areArcs
      cases fuel with
      | zero => exact absurd enough (Nat.not_succ_le_zero _)
      | succ fuel =>
          have behind : Stops Char.isDigit (arcs.flatMap ('.' :: ·) ++ rest) :=
            digits.flatMap_cons (by decide)
          have others := ih further (Nat.le_of_succ_le_succ enough)
          simp only [List.flatMap_cons, List.cons_append, List.append_assoc, readArcs,
            readArc_append first behind, others, Option.bind_eq_bind, Option.bind_some,
            Option.pure_def]

theorem length_le_flatMap_cons (c : Char) (parts : List (List Char)) :
    parts.length ≤ (parts.flatMap (c :: ·)).length := by
  induction parts with
  | nil => exact Nat.le_refl 0
  | cons part parts ih =>
      simp only [List.flatMap_cons, List.length_append, List.length_cons]
      omega

theorem readType_append {type : List Char} (isType : IsType type) (key : Stops isKeyChar rest)
    (point : Stops (· == '.') rest) : readType (type ++ rest) = some (type, rest) := by
  have digits : Stops Char.isDigit rest := key.mono fun _ => isKeyChar_of_isDigit
  cases isType with
  | descriptor letter all =>
      rw [readType, readDescriptor_append letter all key]
      rfl
  | @oid arc arcs first further =>
      have behind : Stops Char.isDigit (arcs.flatMap ('.' :: ·) ++ rest) :=
        digits.flatMap_cons (by decide)
      have enough : arcs.length ≤ (arcs.flatMap ('.' :: ·) ++ rest).length := by
        rw [List.length_append]
        exact Nat.le_add_right_of_le (length_le_flatMap_cons _ _)
      have number : readOid (arc ++ (arcs.flatMap ('.' :: ·) ++ rest)) =
          some (arc ++ arcs.flatMap ('.' :: ·), rest) := by
        simp only [readOid, readArc_append first behind,
          readArcs_append further digits point enough, Option.bind_eq_bind, Option.bind_some,
          Option.pure_def]
      -- An object identifier starts with a digit, so it is no short name.
      have unnamed : readDescriptor (arc ++ (arcs.flatMap ('.' :: ·) ++ rest)) = none := by
        obtain ⟨d, ds, rfl⟩ := List.exists_cons_of_ne_nil first.ne_nil
        have digit := isAlpha_eq_false_of_isDigit (first.digits d List.mem_cons_self)
        rw [List.cons_append, readDescriptor, digit]
        rfl
      rw [List.append_assoc, readType, unnamed]
      exact number

theorem readOptions_append {options : List (List Char)}
    (areOptions : ∀ option ∈ options, option ≠ [] ∧ ∀ c ∈ option, isKeyChar c = true)
    (key : Stops isKeyChar rest) (semicolon : Stops (· == ';') rest) {fuel : Nat}
    (enough : options.length ≤ fuel) :
    readOptions fuel (options.flatMap (';' :: ·) ++ rest) =
      (options.flatMap (';' :: ·), rest) := by
  induction options generalizing fuel with
  | nil =>
      rw [List.flatMap_nil, List.nil_append]
      unfold readOptions
      split
      · simp [stops_cons] at semicolon
      · rfl
  | cons option options ih =>
      obtain ⟨⟨some, all⟩, further⟩ := List.forall_mem_cons.1 areOptions
      cases fuel with
      | zero => exact absurd enough (Nat.not_succ_le_zero _)
      | succ fuel =>
          have stops : Stops isKeyChar (options.flatMap (';' :: ·) ++ rest) :=
            key.flatMap_cons (by decide)
          obtain ⟨run, behind⟩ := takeWhile_dropWhile_append all stops
          have others := ih further (Nat.le_of_succ_le_succ enough)
          simp only [List.flatMap_cons, List.cons_append, List.append_assoc, readOptions, run,
            behind, others]

end

/-- A name is read up to the equality sign behind it. -/
theorem readDescription_append {name : String} (isName : IsDescription name) (rest : List Char) :
    readDescription (name.toList ++ '=' :: rest) = some (name, '=' :: rest) := by
  obtain ⟨type, options, whole, isType, areOptions⟩ := isName
  have ends {p : Char → Bool} (refused : p '=' = false) : Stops p ('=' :: rest) :=
    stops_cons.2 refused
  have typed : readType (type ++ (options.flatMap (';' :: ·) ++ '=' :: rest)) =
      some (type, options.flatMap (';' :: ·) ++ '=' :: rest) :=
    readType_append isType (.flatMap_cons (by decide) (ends (by decide)))
      (.flatMap_cons (by decide) (ends (by decide)))
  have enough : options.length ≤ (options.flatMap (';' :: ·) ++ '=' :: rest).length := by
    rw [List.length_append]
    exact Nat.le_add_right_of_le (length_le_flatMap_cons _ _)
  have read := readOptions_append areOptions (ends (by decide)) (ends (by decide)) enough
  simp only [whole, List.append_assoc, readDescription, typed, read, Option.bind_eq_bind,
    Option.bind_some, Option.pure_def]
  rw [← whole, String.ofList_toList]

/-! ## Items -/

/-- A value is read up to the parenthesis behind it, with its escapes undone. -/
theorem readValue_escape_append (value : String) (rest : List Char) :
    readValue ((escape value).toList ++ ')' :: rest) =
      some (Text.encodeUtf8 value, ')' :: rest) := by
  have read (cs : List Char) : readValue (escapeChars cs ++ ')' :: rest) =
      some (cs.flatMap String.utf8EncodeChar, ')' :: rest) := by
    induction cs with
    | nil => rfl
    | cons c cs ih =>
        rw [escapeChars_cons, List.append_assoc, readValue_escapeChar, ih]
        rfl
  rw [escape, String.toList_ofList, read, Text.encodeUtf8]

section

variable {name : String} {rest : List Char}

theorem readItem_equal (isName : IsDescription name) (value : String) :
    readItem (name.toList ++ '=' :: ((escape value).toList ++ ')' :: rest)) =
      some (.equal name (Text.encodeUtf8 value), ')' :: rest) := by
  have parts (stars : Nat) : readParts stars ((escape value).toList ++ ')' :: rest) =
      some ([Text.encodeUtf8 value], ')' :: rest) := by
    cases stars with
    | zero => rw [readParts, readValue_escape_append, Option.map_some]
    | succ stars => simp [readParts, readValue_escape_append]
  simp only [readItem, readDescription_append isName, parts, ofParts, Option.bind_eq_bind,
    Option.bind_some, Option.pure_def]

theorem readItem_present (isName : IsDescription name) :
    readItem (name.toList ++ '=' :: '*' :: ')' :: rest) = some (.present name, ')' :: rest) := by
  have star : readValue ('*' :: ')' :: rest) = some ([], '*' :: ')' :: rest) := by rfl
  have none (cs : List Char) : readValue (')' :: cs) = some ([], ')' :: cs) := by rfl
  simp only [readItem, readDescription_append isName, List.length_cons, readParts, star, none,
    ofParts, Option.bind_eq_bind, Option.bind_some, Option.pure_def]
  rfl

end

/-! ## Filters -/

/-- A text in parentheses that is read as a tree, whatever follows it. -/
structure Reads (text : List Char) (tree : Tree) : Prop where
  opens : text.head? = some '('
  read (depth : Nat) (rest : List Char) : readFilter (depth + 1) (text ++ rest) = some (tree, rest)

theorem reads_item {name : String} {item : List Char} {tree : Tree} (isName : IsDescription name)
    (read : ∀ rest, readItem (name.toList ++ '=' :: (item ++ ')' :: rest)) =
      some (tree, ')' :: rest)) :
    Reads ('(' :: name.toList ++ '=' :: (item ++ [')'])) tree := by
  -- A name starts with a letter or a digit, so no operator is read.
  have simple (depth : Nat) (cs : List Char) :
      readBody depth (name.toList ++ cs) = readItem (name.toList ++ cs) := by
    obtain ⟨type, options, whole, isType, -⟩ := isName
    obtain ⟨c, key, rfl, plain⟩ := isType.head
    rw [whole, List.cons_append, List.cons_append]
    unfold readBody
    split
    · exact absurd plain (by simp_all)
    · exact absurd plain (by simp_all)
    · exact absurd plain (by simp_all)
    · rfl
  refine ⟨rfl, fun depth rest => ?_⟩
  have body := read rest
  rw [← simple depth] at body
  simp only [List.cons_append, List.append_assoc, List.nil_append, readFilter, body,
    Option.bind_eq_bind, Option.bind_some, Option.pure_def]

/-- Filters that stand one after the other are read one after the other. -/
theorem readFilters_flatten {texts : List (List Char)} {trees : List Tree} {rest : List Char}
    (reads : List.Forall₂ Reads texts trees) (stops : Stops (· == '(') rest) {depth : Nat}
    (deep : texts.length < depth) :
    readFilters depth (texts.flatten ++ rest) = some (trees, rest) := by
  induction reads generalizing depth with
  | nil =>
      rw [List.flatten_nil, List.nil_append]
      unfold readFilters
      split
      · simp [stops_cons] at stops
      · rfl
  | @cons text tree texts trees first others ih =>
      rw [List.length_cons] at deep
      -- The list goes one deeper with each filter, and the filter itself one more.
      obtain ⟨depth, rfl⟩ : ∃ d, depth = d + 2 := ⟨depth - 2, by omega⟩
      obtain ⟨cs, rfl⟩ := List.head?_eq_some_iff.1 first.opens
      have part := first.read depth (texts.flatten ++ rest)
      have left : texts.length < depth + 1 := by omega
      have further := ih left
      rw [List.cons_append] at part
      simp only [List.flatten_cons, List.cons_append, List.append_assoc, readFilters, part,
        further, Option.bind_eq_bind, Option.bind_some, Option.pure_def]

/-! ## Attributes to match -/

/-- What one attribute asks for: each of its values, or that it is there. -/
def assertionsOf (e : String × List String) : List Tree :=
  match e.2 with
  | [] => [.present e.1]
  | values => values.map fun v => .equal e.1 (Text.encodeUtf8 v)

/-- What a set of attributes asks for: nothing at all, one thing, or several things at once. -/
def asked (matching : Attributes) : Tree :=
  match matching.toList.flatMap assertionsOf with
  | [] => .present "objectClass"
  | [assertion] => assertion
  | assertions => .all assertions

theorem reads_itemsOf {e : String × List String} (isName : IsDescription e.1) :
    List.Forall₂ (fun item => Reads item.toList) (itemsOf e) (assertionsOf e) := by
  obtain ⟨name, values⟩ := e
  cases values with
  | nil =>
      refine .cons ?_ .nil
      have reads : Reads ('(' :: name.toList ++ '=' :: (['*'] ++ [')'])) (.present name) :=
        reads_item isName fun _ => readItem_present isName
      simpa [String.toList_append] using reads
  | cons value values =>
      simp only [itemsOf, assertionsOf, List.forall₂_map_left_iff, List.forall₂_map_right_iff,
        List.forall₂_same]
      intro v _
      have reads := reads_item isName fun _ => readItem_equal isName v
      simpa [String.toList_append] using reads

/-- A whole text in parentheses is read as a filter. -/
theorem parse?_of_readFilter {s : String} {cs : List Char} {tree : Tree}
    (opens : s.toList = '(' :: cs)
    (read : readFilter (2 * s.toList.length + 2) s.toList = some (tree, [])) :
    parse? s = some tree := by
  unfold parse?
  simp only [opens] at read ⊢
  rw [read]

theorem parse?_of_reads {s : String} {tree : Tree} (reads : Reads s.toList tree) :
    parse? s = some tree := by
  obtain ⟨cs, whole⟩ := List.head?_eq_some_iff.1 reads.opens
  refine parse?_of_readFilter whole ?_
  simpa only [List.append_nil] using reads.read _ []

/-- Every entry is matched by the presence of its classes. -/
theorem parse?_matchAll : parse? matchAll = some (.present "objectClass") := by
  have named : IsDescription "objectClass" := isDescription_of_key rfl (by decide) (by decide)
  have reads : List.Forall₂ (fun item => Reads item.toList) (itemsOf ("objectClass", []))
      (assertionsOf ("objectClass", [])) := reads_itemsOf named
  exact parse?_of_reads (List.forall₂_cons.1 reads).1

/-- Each of the texts is at least its parenthesis. -/
theorem length_le_flatten {texts : List (List Char)} {trees : List Tree}
    (reads : List.Forall₂ Reads texts trees) : texts.length ≤ texts.flatten.length := by
  induction reads with
  | nil => exact Nat.le_refl 0
  | cons first _ ih =>
      obtain ⟨cs, rfl⟩ := List.head?_eq_some_iff.1 first.opens
      simp only [List.flatten_cons, List.length_append, List.length_cons]
      omega

theorem parse?_all {items : List String} {trees : List Tree}
    (reads : List.Forall₂ (fun item => Reads item.toList) items trees) :
    parse? ("(&" ++ String.join items ++ ")") = some (.all trees) := by
  have texts : List.Forall₂ Reads (items.map String.toList) trees :=
    List.forall₂_map_left_iff.2 reads
  have whole : ("(&" ++ String.join items ++ ")").toList =
      '(' :: '&' :: ((items.map String.toList).flatten ++ [')']) := by
    simp [String.toList_append, List.flatMap_def]
  have short := length_le_flatten texts
  generalize items.map String.toList = parts at texts whole short
  have read (depth : Nat) (deep : parts.length < depth) :
      readFilters depth (parts.flatten ++ [')']) = some (trees, [')']) :=
    readFilters_flatten texts (stops_cons.2 (by decide)) deep
  refine parse?_of_readFilter whole ?_
  generalize long : 2 * ("(&" ++ String.join items ++ ")").toList.length = depth
  rw [whole]
  simp only [whole, List.length_cons, List.length_append] at long
  rw [readFilter, readBody, read depth (by omega)]
  rfl

/-! ## The whole filter -/

/-- What is read of the filter of a set of attributes. -/
theorem parse?_ofAttributes {matching : Attributes}
    (named : ∀ e ∈ matching.toList, IsDescription e.1) :
    parse? (ofAttributes matching) = some (asked matching) := by
  have reads : List.Forall₂ (fun item => Reads item.toList) (matching.toList.flatMap itemsOf)
      (matching.toList.flatMap assertionsOf) := by
    generalize matching.toList = entries at named
    induction entries with
    | nil => exact .nil
    | cons e entries ih =>
        obtain ⟨first, further⟩ := List.forall_mem_cons.1 named
        exact List.rel_append (reads_itemsOf first) (ih further)
  unfold ofAttributes asked
  generalize matching.toList.flatMap itemsOf = items at reads
  generalize matching.toList.flatMap assertionsOf = trees at reads
  cases reads with
  | nil => exact parse?_matchAll
  | cons first others =>
      cases others with
      | nil => exact parse?_of_reads first
      | cons second others => exact parse?_all (.cons first (.cons second others))

/-- **A set of attributes to match.**  If its names are attribute descriptions, its filter is read
back as what the set asks for, whatever the values are: each value of an attribute as an equality
with that value, an attribute without values as its presence, in the order of the attributes, and
all of it at once.  A search for it asks the server for just that. -/
theorem ofAttributes_asks {matching : Attributes}
    (named : ∀ e ∈ matching.toList, IsDescription e.1) :
    parse? (ofAttributes matching) = some (asked matching) ∧
    (matching.toList = [] → ofAttributes matching = matchAll) ∧
    ∀ {κ : Type} (name : String) (ids : Option (List String)) (c : LdapDirContext) (w : World κ)
        (k : LinkId),
      let controls := SearchControls.forAttributes ids
      let spec := LdapDirContext.searchSpec (c.resolve name) (ofAttributes matching) controls
      (LdapDirContext.searchByAttributes name matching ids c w).2.2.network.sentOver k =
        w.network.sentOver k ++
          if c.connection = some k ∧ w.network.isOpen k = true ∧
              Client.pagingClash c.requestControls (c.paging controls) = false then
            [⟨.search (spec.toRequest (asked matching)),
              Client.pageControls c.requestControls (c.paging controls) []⟩]
          else [] := by
  have read := parse?_ofAttributes named
  refine ⟨read, ?_, ?_⟩
  · intro empty
    rw [ofAttributes, empty]
    rfl
  · intro κ name ids c w k controls spec
    have sent := LdapDirContext.sentOver_search name (ofAttributes matching) controls c w k
    rw [Client.opening, LdapDirContext.searchSpec, read] at sent
    exact sent

/-- An empty value, a value that is a star, and an attribute without values. -/
theorem ofAttributes_asks_of_star :
    let matching := Attributes.ofList [("cn", ["", "*"]), ("2.5.4.4;lang-de", [])]
    (∀ e ∈ matching.toList, IsDescription e.1) ∧
    parse? (ofAttributes matching) = some (.all
      [.present "2.5.4.4;lang-de", .equal "cn" [], .equal "cn" [0x2A]]) ∧
    (LdapDirContext.searchByAttributes "ou=b" matching none LdapDirContext.listener
        LdapDirContext.listening).2.2.network.sentOver 0 =
      [⟨.search
          { base := "ou=b,dc=x", scope := .oneLevel, sizeLimit := 0, timeLimit := 0
            typesOnly := false
            filter := .all [.present "2.5.4.4;lang-de", .equal "cn" [], .equal "cn" [0x2A]]
            attributes := ["*"] },
        Client.pageControls [] (LdapDirContext.listener.paging (.ofScope .oneLevel)) []⟩] := by
  intro matching
  have entries : matching.toList = [("2.5.4.4;lang-de", []), ("cn", ["", "*"])] := by decide
  have assertions : asked matching =
      .all [.present "2.5.4.4;lang-de", .equal "cn" [], .equal "cn" [0x2A]] := by
    rw [asked, entries]
    rfl
  have named : ∀ e ∈ matching.toList, IsDescription e.1 := by
    have isArc (d : Char) (digit : d.isDigit = true) : IsArc [d] :=
      ⟨by simp, by simpa using digit, by simp⟩
    rw [entries, List.forall_mem_cons, List.forall_mem_singleton]
    constructor
    · refine ⟨['2'] ++ [['5'], ['4'], ['4']].flatMap ('.' :: ·), ["lang-de".toList], rfl,
        .oid (isArc '2' rfl) ?_, List.forall_mem_singleton.2 ⟨by simp, ?_⟩⟩
      · simpa using ⟨isArc '5' rfl, isArc '4' rfl⟩
      · exact List.all_eq_true.1 (by decide)
    · exact isDescription_of_key rfl (by decide) (by decide)
  obtain ⟨read, -, sent⟩ := ofAttributes_asks named
  rw [assertions] at read sent
  exact ⟨named, read, sent "ou=b" none LdapDirContext.listener LdapDirContext.listening 0⟩

end ManagedLdap.Filter
