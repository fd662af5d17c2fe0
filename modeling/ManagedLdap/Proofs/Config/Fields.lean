/-
# ManagedLdap.Proofs.Config.Fields -- what a section reads of an object

A section goes over the members of its object once and keeps those it knows, in the order they
come.  It is then asked for one field after another.  So nothing depends on the order unless a
name can be found twice, and an object in which a known name stands twice is refused.
`ofMembers_eq_some_iff` says what is kept, and when.  With that, an object that is `Rearranged`, by
another order or members of names the section does not know, answers as before
(`Rearranged.read`).
-/
import Mathlib.Data.List.Nodup
import ManagedLdap.Config.Json

namespace ManagedLdap.Json

set_option autoImplicit false

variable {known : List String} {members others : List (Literal × Json)}

/-! ## What is kept of an object -/

/-- Fields as the members of an object. -/
def named (fields : List (String × Json)) : List (Literal × Json) :=
  fields.map fun m => (some m.1, m.2)

/-- A member as a field, if its name is known. -/
def field? (known : List String) (m : Literal × Json) : Option (String × Json) :=
  match m.1 with
  | some name => if known.contains name then some (name, m.2) else none
  | none => none

/-- The fields that a section knows among the members of an object. -/
def fieldsOf (known : List String) (members : List (Literal × Json)) : List (String × Json) :=
  members.filterMap (field? known)

/-- Going over the members keeps the known ones behind those that were seen, unless a name is no
text or a known one comes again. -/
theorem ofMembers_eq_some_iff {seen fields : List (String × Json)}
    (before : (seen.map Prod.fst).Nodup) :
    Fields.ofMembers known members seen = some fields ↔
      (∀ m ∈ members, m.1 ≠ none) ∧ ((seen ++ fieldsOf known members).map Prod.fst).Nodup ∧
        seen ++ fieldsOf known members = fields := by
  induction members generalizing seen with
  | nil => simp [Fields.ofMembers, fieldsOf, before]
  | cons m members ih =>
      obtain ⟨name, value⟩ := m
      cases name with
      | none => simp [Fields.ofMembers]
      | some name =>
          have named : (∀ m ∈ (some name, value) :: members, m.1 ≠ none) ↔
              ∀ m ∈ members, m.1 ≠ none := by
            rw [List.forall_mem_cons, and_iff_right (Option.some_ne_none name)]
          rw [Fields.ofMembers, named]
          by_cases isKnown : known.contains name = true
          · have kept : fieldsOf known ((some name, value) :: members) =
                (name, value) :: fieldsOf known members :=
              List.filterMap_cons_some (if_pos isKnown)
            rw [if_pos isKnown, kept]
            have found : (seen.any fun f => f.1 == name) = true ↔ name ∈ seen.map Prod.fst := by
              simp
            by_cases again : name ∈ seen.map Prod.fst
            · have twice : ¬ ((seen ++ (name, value) :: fieldsOf known members).map
                  Prod.fst).Nodup := by
                intro once
                rw [List.map_append] at once
                exact (List.nodup_append.1 once).2.2 name again name List.mem_cons_self rfl
              rw [if_pos (found.2 again)]
              exact iff_of_false (Option.some_ne_none _).symm fun ⟨_, once, _⟩ => twice once
            · have once : ((seen ++ [(name, value)]).map Prod.fst).Nodup := by
                rw [List.map_append]
                refine List.nodup_append.2 ⟨before, List.pairwise_singleton _ _, ?_⟩
                intro a among b last same
                obtain rfl := List.mem_singleton.1 last
                exact again (same ▸ among)
              rw [if_neg (mt found.1 again), ih once, List.append_assoc]
              rfl
          · have skipped : fieldsOf known ((some name, value) :: members) =
                fieldsOf known members := List.filterMap_cons_none (if_neg isKnown)
            rw [if_neg isKnown, skipped, ih before]

/-- An object that a section accepts: every name is a text, and no known one stands twice. -/
structure Proper (known : List String) (members : List (Literal × Json)) : Prop where
  named : ∀ m ∈ members, m.1 ≠ none
  once : ((fieldsOf known members).map Prod.fst).Nodup

theorem ofJson?_object_eq_some_iff {f : Fields} :
    Fields.ofJson? known (.object members) = some f ↔
      Proper known members ∧ f = ⟨fieldsOf known members, false⟩ := by
  rw [Fields.ofJson?, Option.map_eq_some_iff]
  constructor
  · rintro ⟨fields, kept, rfl⟩
    obtain ⟨named, once, rfl⟩ := (@ofMembers_eq_some_iff known members [] _ List.nodup_nil).1 kept
    exact ⟨⟨named, once⟩, rfl⟩
  · rintro ⟨⟨named, once⟩, rfl⟩
    exact ⟨_, (@ofMembers_eq_some_iff known members [] _ List.nodup_nil).2 ⟨named, once, rfl⟩, rfl⟩

/-! ## Objects that say the same -/

/-- The members of an object in whatever order, among others that the section does not know. -/
def Rearranged (known : List String) (members rearranged : List (Literal × Json)) : Prop :=
  ∃ others : List (Literal × Json), (∀ m ∈ others, ∃ name, m.1 = some name ∧ name ∉ known) ∧
    rearranged.Perm (members ++ others)

/-- Fields that cannot be told apart by asking for them. -/
structure Alike (f g : Fields) : Prop where
  found : f.find? = g.find?
  placed : f.byPosition = g.byPosition

/-- Where no name stands twice, what is found is what is there. -/
theorem find?_eq_some_iff {f : Fields} (once : (f.present.map Prod.fst).Nodup) {name : String}
    {j : Json} : f.find? name = some j ↔ (name, j) ∈ f.present := by
  rw [Fields.find?, Option.map_eq_some_iff]
  constructor
  · rintro ⟨⟨key, value⟩, found, rfl⟩
    obtain rfl : key = name := by simpa using List.find?_some found
    exact List.mem_of_find?_eq_some found
  · intro among
    cases found : f.present.find? fun e => e.1 == name with
    | none => exact absurd (beq_self_eq_true name) (List.find?_eq_none.1 found _ among)
    | some e =>
        have same : e.1 = name := by simpa using List.find?_some found
        have one := List.inj_on_of_nodup_map once (List.mem_of_find?_eq_some found) among same
        exact ⟨e, rfl, congrArg Prod.snd one⟩

/-- A field is found among the members that it is one of. -/
theorem find?_of_mem {fields : List (String × Json)} (once : known.Nodup)
    (listed : (fields.map Prod.fst).Sublist known) {name : String} {j : Json}
    (among : (name, j) ∈ fields) {byPosition : Bool} :
    Fields.find? ⟨fields, byPosition⟩ name = some j :=
  (find?_eq_some_iff (once.sublist listed)).2 among

theorem alike_of_perm {f g : Fields} (same : f.present.Perm g.present)
    (once : (g.present.map Prod.fst).Nodup) (placed : f.byPosition = g.byPosition) : Alike f g := by
  refine ⟨funext fun name => Option.ext fun j => ?_, placed⟩
  have also : (f.present.map Prod.fst).Nodup := (same.map Prod.fst).nodup_iff.2 once
  rw [find?_eq_some_iff also, find?_eq_some_iff once, same.mem_iff]

namespace Rearranged

variable {rearranged : List (Literal × Json)}

theorem refl (known : List String) (members : List (Literal × Json)) :
    Rearranged known members members :=
  ⟨[], nofun, by rw [List.append_nil]⟩

theorem fieldsOf_perm (same : Rearranged known members rearranged) :
    (fieldsOf known rearranged).Perm (fieldsOf known members) := by
  obtain ⟨others, unknown, perm⟩ := same
  have nothing : fieldsOf known others = [] := by
    refine List.filterMap_eq_nil_iff.2 fun m among => ?_
    obtain ⟨name, named, away⟩ := unknown m among
    simp [field?, named, away]
  have kept := perm.filterMap (field? known)
  rw [List.filterMap_append] at kept
  change (fieldsOf known rearranged).Perm (fieldsOf known members ++ fieldsOf known others) at kept
  rwa [nothing, List.append_nil] at kept

theorem proper_iff (same : Rearranged known members rearranged) :
    Proper known rearranged ↔ Proper known members := by
  have once := (same.fieldsOf_perm.map Prod.fst).nodup_iff
  obtain ⟨others, unknown, perm⟩ := same
  have named : (∀ m ∈ rearranged, m.1 ≠ none) ↔ ∀ m ∈ members, m.1 ≠ none := by
    simp only [perm.mem_iff, List.forall_mem_append]
    refine and_iff_left fun m among => ?_
    obtain ⟨name, named, -⟩ := unknown m among
    rw [named]
    exact Option.some_ne_none name
  constructor
  · rintro ⟨texts, single⟩
    exact ⟨named.1 texts, once.1 single⟩
  · rintro ⟨texts, single⟩
    exact ⟨named.2 texts, once.2 single⟩

/-- A section that only asks for fields reads the same of both objects, or refuses both. -/
theorem read {α : Type} {read : Fields → Option α} (same : Rearranged known members rearranged)
    (asks : ∀ {f g : Fields}, Alike f g → read f = read g) :
    (Fields.ofJson? known (.object rearranged)).bind read =
      (Fields.ofJson? known (.object members)).bind read := by
  by_cases proper : Proper known members
  · rw [ofJson?_object_eq_some_iff.2 ⟨proper, rfl⟩,
      ofJson?_object_eq_some_iff.2 ⟨same.proper_iff.2 proper, rfl⟩, Option.bind_some,
      Option.bind_some]
    exact asks (alike_of_perm same.fieldsOf_perm proper.once rfl)
  · have refused {ms : List (Literal × Json)} (improper : ¬ Proper known ms) :
        Fields.ofJson? known (.object ms) = none :=
      Option.eq_none_iff_forall_ne_some.2 fun _ accepted =>
        improper (ofJson?_object_eq_some_iff.1 accepted).1
    rw [refused proper, refused (mt same.proper_iff.1 proper)]

end Rearranged

/-! ## Fields that are there or left out -/

/-- The fields of which the name is kept. -/
def keep (kept : String → Bool) (fields : List (String × Json)) : List (String × Json) :=
  fields.filter fun m => kept m.1

/-- What holds of every value holds of the one that is there. -/
theorem forall_mem_memberOf {α : Type} {p : String × Json → Prop} {name : String} {json : α → Json}
    (each : ∀ a, p (name, json a)) (value : Option α) : ∀ m ∈ memberOf name json value, p m := by
  cases value with
  | none => exact fun _ among => by cases among
  | some a => exact List.forall_mem_singleton.2 (each a)

theorem memberOf_sublist {α : Type} (name : String) (json : α → Json) (value : Option α) :
    ((memberOf name json value).map Prod.fst).Sublist [name] := by
  cases value with
  | none => exact List.nil_sublist _
  | some a => exact List.Sublist.refl _

/-- The members of a record whose names are some of the known ones are its fields. -/
theorem ofJson?_record {fields : List (String × Json)} (once : known.Nodup)
    (listed : (fields.map Prod.fst).Sublist known) :
    Fields.ofJson? known (.record fields) = some ⟨fields, false⟩ := by
  have kept : fieldsOf known (fields.map fun m => (some m.1, m.2)) = fields := by
    have all : ∀ m ∈ fields, (field? known ∘ fun m => (some m.1, m.2)) m = some m := by
      intro m among
      have isKnown : m.1 ∈ known := listed.subset (List.mem_map_of_mem among)
      simp [field?, isKnown]
    rw [fieldsOf, List.filterMap_map, List.filterMap_congr all, List.filterMap_some]
  refine ofJson?_object_eq_some_iff.2 ⟨⟨?_, ?_⟩, ?_⟩
  · intro m among
    obtain ⟨e, -, rfl⟩ := List.mem_map.1 among
    exact Option.some_ne_none e.1
  · rw [kept]
    exact once.sublist listed
  · rw [kept]

theorem keep_all (fields : List (String × Json)) : keep (fun _ => true) fields = fields :=
  List.filter_true fields

theorem ofJson?_keep {fields : List (String × Json)} (once : known.Nodup)
    (listed : (fields.map Prod.fst).Sublist known) (kept : String → Bool) :
    Fields.ofJson? known (.record (keep kept fields)) = some ⟨keep kept fields, false⟩ :=
  ofJson?_record once ((List.filter_sublist.map Prod.fst).trans listed)

section

variable {name : String} {byPosition : Bool}

theorem find?_nil : Fields.find? ⟨[], byPosition⟩ name = none := rfl

theorem find?_cons (key : String) (j : Json) (fields : List (String × Json)) :
    Fields.find? ⟨(key, j) :: fields, byPosition⟩ name =
      if key = name then some j else Fields.find? ⟨fields, byPosition⟩ name := by
  by_cases same : key = name
  · simp [Fields.find?, same]
  · simp [Fields.find?, same]

theorem find?_append (front back : List (String × Json)) :
    Fields.find? ⟨front ++ back, byPosition⟩ name =
      (Fields.find? ⟨front, byPosition⟩ name).or (Fields.find? ⟨back, byPosition⟩ name) := by
  simp only [Fields.find?, List.find?_append, Option.map_or]

theorem find?_memberOf {α : Type} (key : String) (json : α → Json) (value : Option α) :
    Fields.find? ⟨memberOf key json value, byPosition⟩ name =
      if key = name then value.map json else none := by
  cases value with
  | none => simp [memberOf, Fields.find?]
  | some a => by_cases same : key = name <;> simp [memberOf, Fields.find?, same]

theorem find?_keep (kept : String → Bool) (fields : List (String × Json)) :
    Fields.find? ⟨keep kept fields, byPosition⟩ name =
      if kept name then Fields.find? ⟨fields, byPosition⟩ name else none := by
  have both : (fun m : String × Json => decide (kept m.1 = true ∧ (m.1 == name) = true)) =
      fun m => kept name && m.1 == name := by
    funext m
    by_cases same : m.1 = name
    · simp [same]
    · simp [beq_eq_false_iff_ne.2 same]
  rw [Fields.find?, keep, List.find?_filter, both]
  cases kept name <;> simp [Fields.find?]

variable {kept : String → Bool} {fields : List (String × Json)}

theorem required_keep {α : Type} {a : α} {read : Json → Option α} {j : Json}
    (here : Fields.find? ⟨fields, byPosition⟩ name = some j) (reads : read j = some a)
    (left : kept name = true) :
    Fields.required ⟨keep kept fields, byPosition⟩ name read = some a := by
  rw [Fields.required, find?_keep, if_pos left, here]
  exact reads

/-- A field that is left out has its default, and is otherwise read. -/
theorem orElse_keep {α : Type} {default a : α} {read : Json → Option α} {j : Json}
    (here : Fields.find? ⟨fields, byPosition⟩ name = some j) (reads : read j = some a) :
    Fields.orElse ⟨keep kept fields, byPosition⟩ name default read =
      some (if kept name then a else default) := by
  rw [Fields.orElse, find?_keep, here]
  cases kept name with
  | true => exact reads
  | false => rfl

/-- An optional text that is left out has no value. -/
theorem optional_keep {value : Option String}
    (here : Fields.find? ⟨fields, false⟩ name = value.map .text) :
    Fields.optional ⟨keep kept fields, false⟩ name text? =
      some (if kept name then value else none) := by
  rw [Fields.optional, find?_keep, here]
  cases kept name with
  | false => rfl
  | true => cases value <;> rfl

end

end ManagedLdap.Json
