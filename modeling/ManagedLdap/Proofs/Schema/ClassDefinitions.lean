/-
# ManagedLdap.Proofs.Schema.ClassDefinitions -- the definitions of the classes of an entry

The definitions of the classes of an entry take three reads, or four: the classes of the entry, the
place of its schema, which the root of the server names if the entry does not, and the definitions
there.  Those are handed out, in their order and as they are, of which a name that is read is one of
the classes.

So the answer is right where the names are read right, and that is not so for every definition.  A
`ClassDefinition` is a text with the proof that it belongs to the grammar, and `Clear` says which
ones have their names read as they are declared: those that spell the NAME field in capitals, and
those that declare none and have nothing quoted behind a word that looks like one.
-/
import Mathlib.Data.Bool.AllAny
import ManagedLdap.Proofs.Ldap.EntryReads
import ManagedLdap.Proofs.Schema.Names
import ManagedLdap.Proofs.Text.Utf8

namespace ManagedLdap

set_option autoImplicit false

/-! ## Definitions -/

/-- The definition of an object class as the schema of a server has it. -/
structure ClassDefinition where
  text : String
  field : Option Schema.NameField
  described : text.toList ∈ Schema.description (fun _ => True) field

namespace ClassDefinition

/-- The names that a definition declares. -/
def declared (d : ClassDefinition) : List String := (d.field.map Schema.NameField.names).getD []

/-- The NAME field, if there is one, is spelt in capitals. -/
def Shouted (d : ClassDefinition) : Prop := ∀ f, d.field = some f → f.spelling = "NAME".toList

/-- The names of a definition can be read without the grammar. -/
def Clear (d : ClassDefinition) : Prop :=
  (d.field.isSome = true ∧ d.Shouted) ∨
    (d.declared = [] ∧
      ∀ after, Schema.afterName d.text.toList = some after → '\'' ∉ Schema.listing after)

variable {d : ClassDefinition}

theorem names_of_clear (clear : d.Clear) : Schema.names d.text = d.declared := by
  rcases clear with ⟨given, shouted⟩ | ⟨nothing, stray⟩
  · obtain ⟨f, present⟩ := Option.isSome_iff_exists.1 given
    have described := d.described
    rw [present] at described
    rw [Schema.names_of_field described (shouted f present), declared, present]
    rfl
  · rw [nothing]
    exact (Schema.names_eq_nil_iff d.text).2 stray

/-- **Exactly the clear definitions have their names read as they are declared**, as long as no
NAME field is spelt otherwise. -/
theorem names_eq_declared_iff (shouted : d.Shouted) :
    Schema.names d.text = d.declared ↔ d.Clear := by
  refine ⟨fun read => ?_, names_of_clear⟩
  cases field : d.field with
  | some f => exact .inl ⟨by rw [field]; rfl, shouted⟩
  | none =>
      have nothing : d.declared = [] := by rw [declared, field]; rfl
      exact .inr ⟨nothing, (Schema.names_eq_nil_iff d.text).1 (read.trans nothing)⟩

/-- Without a NAME field it is enough that the author's words do not hold that word. -/
theorem clear_of_unnamed (field : d.field = none)
    (described : d.text.toList ∈ Schema.description Schema.Unnamed none) : d.Clear := by
  refine .inr ⟨by rw [declared, field]; rfl, ?_⟩
  exact (Schema.names_eq_nil_iff d.text).1 (Schema.names_of_hidden Schema.hidden_none described)

end ClassDefinition

/-! ## Making definitions -/

namespace Schema

open scoped Computability

theorem space_mem_spaces : [' '] ∈ spaces :=
  Language.mem_kstar.2 ⟨[[' ']], rfl, fun _ among => List.mem_singleton.1 among⟩

theorem space_mem_gap : [' '] ∈ gap := ⟨[' '], rfl, [], Language.nil_mem_kstar _, rfl⟩

theorem mem_optional_mul {l : Language Char} {cs : List Char} (part : Language Char)
    (within : cs ∈ l) : cs ∈ optional part * l := ⟨[], .inl rfl, cs, within, rfl⟩

theorem mem_mul_optional {l : Language Char} {cs : List Char} (part : Language Char)
    (within : cs ∈ l) : cs ∈ l * optional part := ⟨cs, within, [], .inl rfl, List.append_nil cs⟩

theorem isQuotable_of_plain {cs : List Char} (plain : ∀ c ∈ cs, c ≠ '\'' ∧ c ≠ '\\') :
    IsQuotable cs := by
  induction cs with
  | nil => exact .nil
  | cons c cs ih =>
      obtain ⟨first, others⟩ := List.forall_mem_cons.1 plain
      exact .plain first.1 first.2 (ih others)

variable {Allowed : List Char → Prop}

/-- A text between quotes that holds neither quotes nor backslashes. -/
theorem quote_mem {cs : List Char} (given : cs ≠ []) (plain : ∀ c ∈ cs, c ≠ '\'' ∧ c ≠ '\\')
    (allowed : Allowed cs) : '\'' :: cs ++ ['\''] ∈ quotedText Allowed :=
  Language.append_mem_mul (Language.append_mem_mul (a := ['\'']) (l := sign '\'') rfl
    ⟨isQuotable_of_plain plain, given, allowed⟩) rfl

/-- A definition with single spaces between its parts. -/
theorem append_mem_description {field : Option NameField} {number names later : List Char}
    (numbered : number ∈ numericOid) (named : names ∈ nameField field)
    (behind : later ∈ laterFields Allowed) :
    '(' :: ' ' :: (number ++ names ++ later) ++ [' ', ')'] ∈ description Allowed field := by
  have opened : ['('] ++ [' '] ∈ sign '(' * spaces := Language.append_mem_mul rfl space_mem_spaces
  have front := Language.append_mem_mul (Language.append_mem_mul opened numbered) named
  have inner := Language.append_mem_mul (Language.append_mem_mul front behind) space_mem_spaces
  have whole : _ ++ [')'] ∈ description Allowed field := Language.append_mem_mul inner rfl
  simpa only [List.append_assoc, List.cons_append, List.nil_append] using whole

/-- Behind the names there may be a superior class and extensions only. -/
theorem append_mem_laterFields {sup extensions : List Char}
    (superior : sup ∈ optional (gap * keyword "SUP" * gap * oids Allowed))
    (extended : extensions ∈ (gap * extension Allowed * gap * quotedTexts Allowed)∗) :
    sup ++ extensions ∈ laterFields Allowed := by
  refine Language.append_mem_mul ?_ extended
  refine mem_mul_optional _ (mem_mul_optional _ (mem_mul_optional _ ?_))
  rw [mul_assoc]
  exact mem_optional_mul _ (mem_optional_mul _ superior)

theorem isArc_digit {c : Char} (digit : c.isDigit = true) : Filter.IsArc [c] where
  ne_nil := List.cons_ne_nil _ _
  digits := List.forall_mem_singleton.2 digit
  lead first := by rw [Option.some.inj first]

/-- The number of the classes below. -/
theorem number_mem : "1.2.3".toList ∈ numericOid := by
  refine ⟨['1'], [['2'], ['3']], rfl, List.cons_ne_nil _ _, isArc_digit rfl, ?_⟩
  exact List.forall_mem_cons.2 ⟨isArc_digit rfl,
    List.forall_mem_singleton.2 (isArc_digit rfl)⟩

end Schema

namespace ClassDefinition

open Schema
open scoped Computability

/-- A class with one name. -/
def person : ClassDefinition where
  text := "( 1.2.3 NAME 'person' )"
  field := some ⟨"NAME".toList, ["person"], rfl⟩
  described := by
    have name : "'person'".toList ∈ quotedNames ["person"] :=
      .inl ⟨"person", rfl, ⟨'p', "erson".toList, rfl, rfl, List.all_eq_true.1 (by decide)⟩, rfl⟩
    have word : "NAME".toList ∈ ({"NAME".toList} : Language Char) := rfl
    have named : " NAME 'person'".toList ∈
        nameField (some ⟨"NAME".toList, ["person"], rfl⟩) :=
      Language.append_mem_mul (Language.append_mem_mul (Language.append_mem_mul space_mem_gap word)
        space_mem_gap) name
    have nothing : [] ++ [] ∈ laterFields fun _ => True :=
      append_mem_laterFields (.inl rfl) (Language.nil_mem_kstar _)
    exact append_mem_description number_mem named nothing

/-- A class without a name, whose superior begins like the keyword. -/
def nameless : ClassDefinition where
  text := "( 1.2.3 SUP NAMED X-ORIGIN 'person' )"
  field := none
  described := by
    have superior : " SUP NAMED".toList ∈
        optional (gap * keyword "SUP" * gap * oids fun _ => True) := by
      have word : "SUP".toList ∈ keyword "SUP" := mem_words.2 rfl
      have parent : "NAMED".toList ∈ oids fun _ => True :=
        .inl (.inl ⟨⟨'N', "AMED".toList, rfl, rfl, List.all_eq_true.1 (by decide)⟩, trivial⟩)
      exact .inr (Language.append_mem_mul (Language.append_mem_mul
        (Language.append_mem_mul space_mem_gap word) space_mem_gap) parent)
    have origin : " X-ORIGIN 'person'".toList ∈
        (gap * extension (fun _ => True) * gap * quotedTexts fun _ => True)∗ := by
      have word : "X-ORIGIN".toList ∈ extension fun _ => True :=
        ⟨⟨'X', "ORIGIN".toList, rfl, .inl rfl, by decide,
          List.all_iff_forall_prop.1 (by decide)⟩, trivial⟩
      have quoted : '\'' :: "person".toList ++ ['\''] ∈ quotedTexts fun _ => True :=
        .inl (quote_mem (by decide) (List.all_iff_forall_prop.1 (by decide)) trivial)
      have one := Language.append_mem_mul (Language.append_mem_mul
        (Language.append_mem_mul space_mem_gap word) space_mem_gap) quoted
      exact Language.mem_kstar.2 ⟨[_], (List.append_nil _).symm, List.forall_mem_singleton.2 one⟩
    have unnamed : [] ∈ nameField none := rfl
    exact append_mem_description number_mem unnamed
      (append_mem_laterFields superior origin)

end ClassDefinition

/-! ## Reading a schema -/

namespace Schema

/-- One of the names is a class of these, in any letter case. -/
def Defines (classes names : List String) : Prop :=
  ∃ n ∈ names, ∃ k ∈ classes, Text.fold k = Text.fold n

instance (classes names : List String) : Decidable (Defines classes names) :=
  inferInstanceAs (Decidable (∃ n ∈ names, ∃ k ∈ classes, Text.fold k = Text.fold n))

theorem declaring_eq (classes definitions : List String) :
    declaring classes definitions = definitions.filter fun d => Defines classes (names d) := by
  unfold declaring
  congr 1
  funext d
  rw [Bool.eq_iff_iff, decide_eq_true_iff]
  simp only [List.any_eq_true, Text.sameFold_iff, Defines]

end Schema

namespace LdapDirContext

variable {κ : Type}

/-- The replies by which the place of the schema of an entry is found. -/
inductive SchemaFound (c : LdapDirContext) (l : Library) (dn : String) :
    List ServerReply → String → Prop
  /-- The entry names it. -/
  | entry {reply : ServerReply} {e : SearchEntry} {schema : String}
      (read : c.entryOf l dn reply = .ok e) (named : e.attributes.first? subschema = some schema) :
      SchemaFound c l dn [reply] schema
  /-- The root of the server names it, or it is at the usual place. -/
  | root {reply reply' : ServerReply} {e root : SearchEntry} (read : c.entryOf l dn reply = .ok e)
      (unnamed : e.attributes.first? subschema = none) (read' : c.entryOf l "" reply' = .ok root) :
      SchemaFound c l dn [reply, reply'] ((root.attributes.first? subschema).getD Schema.defaultDn)

theorem schemaDn_found {c : LdapDirContext} {link : LinkId} (held : c.connection = some link)
    {w : World κ} {l : Library} {replies later : List ServerReply}
    (awaits : w.network.Awaits link l (replies ++ later)) {dn schema : String}
    (places : c.SchemaFound l dn replies schema) :
    ∃ controls w', schemaDn dn c w = (.ok schema, { c with responseControls := controls }, w') ∧
      w'.network.Awaits link l later := by
  cases places with
  | entry read named =>
      obtain ⟨controls, w', answered, further⟩ := readEntry_answered held awaits read [subschema]
      refine ⟨controls, w', ?_, further⟩
      simp only [schemaDn, Act.bind_apply, answered, named, Act.pure_apply]
  | root read unnamed read' =>
      obtain ⟨controls, w', answered, further⟩ := readEntry_answered held awaits read [subschema]
      obtain ⟨controls', w'', answered', further⟩ :=
        readEntry_answered (c := { c with responseControls := controls }) held further read'
          [subschema]
      refine ⟨controls', w'', ?_, further⟩
      simp only [schemaDn, Act.bind_apply, answered, unnamed, answered', Act.pure_apply]

/-- A reply with one attribute of one value is read as such. -/
theorem entryOf_value (c : LdapDirContext) (dn name value : String) :
    ∃ e, c.entryOf .standard dn (sending ⟨dn, [(name, [Text.encodeUtf8 value])]⟩) = .ok e ∧
      e.attributes.get? name = some [value] := by
  have read : Library.standard.construct ⟨dn, [(name, [Text.encodeUtf8 value])]⟩ =
      { dn := dn, texts := [(name, [value])], binaries := [] } := by
    change SearchEntry.ofRaw _ = _
    simp [SearchEntry.ofRaw, SearchEntry.lastWins, SearchEntry.gather,
      Text.decodeUtf8?_encodeUtf8]
  have only : (Attributes.ofList [(name, [value])]).toList = [(name, [value])] := rfl
  refine ⟨_, by rw [entryOf, pageEnd_sending]; rfl, ?_⟩
  rw [read]
  change (Attributes.ofList [(name, [value])]).get? name = some [value]
  simp [Attributes.get?, only, Text.sameFold_refl]

/-- A class, the place of the schema, and a schema with one definition. -/
def schemaReplies (definition : String) : List ServerReply :=
  [sending ⟨"cn=a,dc=x", [("objectClass", [Text.encodeUtf8 "Person"])]⟩,
    sending ⟨"cn=a,dc=x", [(subschema, [Text.encodeUtf8 "cn=s"])]⟩,
    sending ⟨"cn=s", [("objectClasses", [Text.encodeUtf8 definition])]⟩]

/-- What the listener makes of them. -/
theorem schemaReplies_read (definition : String) :
    ∃ first places last entry answer, schemaReplies definition = first :: (places ++ last :: []) ∧
      listener.entryOf .standard (listener.resolve "cn=a") first = .ok entry ∧
      (entry.attributes.get? "objectClass").getD [] = ["Person"] ∧
      listener.SchemaFound .standard (listener.resolve "cn=a") places "cn=s" ∧
      listener.entryOf .standard "cn=s" last = .ok answer ∧
      (answer.attributes.get? "objectClasses").getD [] = [definition] := by
  obtain ⟨entry, read, classes⟩ := listener.entryOf_value "cn=a,dc=x" "objectClass" "Person"
  obtain ⟨place, found, named⟩ := listener.entryOf_value "cn=a,dc=x" subschema "cn=s"
  obtain ⟨answer, listed, stated⟩ := listener.entryOf_value "cn=s" "objectClasses" definition
  have schema : place.attributes.first? subschema = some "cn=s" := by
    rw [Attributes.first?, named]
    rfl
  exact ⟨_, [_], _, entry, answer, rfl, read, by rw [classes]; rfl, .entry found schema, listed,
    by rw [stated]; rfl⟩

/-- The definitions at the place of the schema, of which a name is a class of the entry. -/
theorem getSchemaClassDefinition_answered {c : LdapDirContext} {link : LinkId}
    (held : c.connection = some link) {w : World κ} {l : Library} {first last : ServerReply}
    {replies later : List ServerReply}
    (awaits : w.network.Awaits link l (first :: (replies ++ last :: later)))
    {name schema : String} {entry answer : SearchEntry}
    (read : c.entryOf l (c.resolve name) first = .ok entry)
    (places : c.SchemaFound l (c.resolve name) replies schema)
    (listed : c.entryOf l schema last = .ok answer) :
    (getSchemaClassDefinition name c w).1 =
      .ok (Schema.declaring ((entry.attributes.get? "objectClass").getD [])
        ((answer.attributes.get? "objectClasses").getD [])) := by
  obtain ⟨controls, w₁, answered, further⟩ := readEntry_answered held awaits read ["objectClass"]
  -- The place of the schema does not depend on the controls of a result.
  have places' : ({ c with responseControls := controls }).SchemaFound l (c.resolve name) replies
      schema := by
    cases places with
    | entry read named => exact .entry read named
    | root read unnamed read' => exact .root read unnamed read'
  obtain ⟨controls', w₂, found, further⟩ :=
    schemaDn_found (c := { c with responseControls := controls }) held further places'
  obtain ⟨controls'', w₃, defined, -⟩ :=
    readEntry_answered (c := { c with responseControls := controls' }) held further listed
      ["objectClasses"]
  simp only [getSchemaClassDefinition, Act.bind_apply, Act.self_apply, answered, found, defined,
    Act.pure_apply]

/-- **A class of an entry has the definitions that are read to name it**, in the order of the
schema and unchanged.  The names of a definition are read as they are declared if it is clear, and
otherwise, as long as its NAME field is in capitals, they are not: so of a schema whose definitions
are clear, exactly those are handed out that declare a class of the entry.  Clear is every
definition whose NAME field is in capitals, whatever it has behind it, and every one without that
field whose words do not hold the keyword.  A NAME field that is not in capitals is not found. -/
theorem classDefinitions_declared {c : LdapDirContext} {link : LinkId}
    (held : c.connection = some link) {w : World κ} {l : Library} {first last : ServerReply}
    {replies later : List ServerReply}
    (awaits : w.network.Awaits link l (first :: (replies ++ last :: later)))
    {name schema : String} {entry answer : SearchEntry}
    (read : c.entryOf l (c.resolve name) first = .ok entry)
    (places : c.SchemaFound l (c.resolve name) replies schema)
    (listed : c.entryOf l schema last = .ok answer) {definitions : List ClassDefinition}
    (stated : (answer.attributes.get? "objectClasses").getD [] =
      definitions.map ClassDefinition.text) :
    let classes := (entry.attributes.get? "objectClass").getD []
    (getSchemaClassDefinition name c w).1 =
      .ok ((definitions.filter fun d => Schema.Defines classes (Schema.names d.text)).map
        ClassDefinition.text) ∧
    (∀ d : ClassDefinition, d.Shouted → (Schema.names d.text = d.declared ↔ d.Clear)) ∧
    (∀ d : ClassDefinition, d.field.isSome = true → d.Shouted → d.Clear) ∧
    (∀ d : ClassDefinition, d.field = none →
      d.text.toList ∈ Schema.description Schema.Unnamed none → d.Clear) ∧
    (∀ d : ClassDefinition, Schema.Hidden d.field →
      d.text.toList ∈ Schema.description Schema.Unnamed d.field → Schema.names d.text = []) ∧
    ((∀ d ∈ definitions, d.Clear) →
      (getSchemaClassDefinition name c w).1 =
        .ok ((definitions.filter fun d => Schema.Defines classes d.declared).map
          ClassDefinition.text)) := by
  intro classes
  have returned : (getSchemaClassDefinition name c w).1 =
      .ok ((definitions.filter fun d => Schema.Defines classes (Schema.names d.text)).map
        ClassDefinition.text) := by
    rw [getSchemaClassDefinition_answered held awaits read places listed, stated,
      Schema.declaring_eq, List.filter_map]
    rfl
  refine ⟨returned, fun d => ClassDefinition.names_eq_declared_iff, fun d given shouted =>
    .inl ⟨given, shouted⟩, fun d => ClassDefinition.clear_of_unnamed,
    fun d => Schema.names_of_hidden, fun clear => ?_⟩
  have same : ∀ d ∈ definitions, (decide (Schema.Defines classes (Schema.names d.text)) : Bool) =
      decide (Schema.Defines classes d.declared) := by
    intro d among
    rw [ClassDefinition.names_of_clear (clear d among)]
  rw [returned, List.filter_congr same]

/-- The class of an entry, which its definition declares in small letters. -/
theorem classDefinitions_declared_of_person :
    let w := answering (schemaReplies ClassDefinition.person.text)
    ClassDefinition.person.Clear ∧
    (getSchemaClassDefinition "cn=a" listener w).1 = .ok [ClassDefinition.person.text] := by
  intro w
  obtain ⟨first, places, last, entry, answer, split, read, classes, found, listed, stated⟩ :=
    schemaReplies_read ClassDefinition.person.text
  have awaits : w.network.Awaits 0 .standard (first :: (places ++ last :: [])) := by
    rw [← split]
    exact answering_awaits (by simp [schemaReplies, sending])
  have texts : (answer.attributes.get? "objectClasses").getD [] =
      [ClassDefinition.person].map ClassDefinition.text := stated
  obtain ⟨-, -, shouts, -, -, declared⟩ :=
    classDefinitions_declared rfl awaits read found listed texts
  have clear : ClassDefinition.person.Clear := shouts _ rfl (by rintro f ⟨⟩; rfl)
  refine ⟨clear, ?_⟩
  rw [declared (List.forall_mem_singleton.2 clear), classes]
  decide

/-- A definition that declares no name is handed out for a class that one of its extensions
mentions. -/
theorem getSchemaClassDefinition_of_nameless :
    let w := answering (schemaReplies ClassDefinition.nameless.text)
    ClassDefinition.nameless.declared = [] ∧
    Schema.names ClassDefinition.nameless.text = ["person"] ∧
    (getSchemaClassDefinition "cn=a" listener w).1 = .ok [ClassDefinition.nameless.text] := by
  intro w
  obtain ⟨first, places, last, entry, answer, split, read, classes, found, listed, stated⟩ :=
    schemaReplies_read ClassDefinition.nameless.text
  have awaits : w.network.Awaits 0 .standard (first :: (places ++ last :: [])) := by
    rw [← split]
    exact answering_awaits (by simp [schemaReplies, sending])
  have misread : Schema.names ClassDefinition.nameless.text = ["person"] := by decide +kernel
  refine ⟨rfl, misread, ?_⟩
  rw [getSchemaClassDefinition_answered rfl awaits read found listed, classes, stated,
    Schema.declaring_eq, List.filter_singleton, misread]
  rfl

end LdapDirContext

end ManagedLdap
