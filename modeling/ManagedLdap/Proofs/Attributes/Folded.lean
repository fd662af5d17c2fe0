/-
# ManagedLdap.Proofs.Attributes.Folded -- an attribute set is a map from names without letter case

The entries of a set are kept by their spelling, and each operation looks among them for a
spelling of the name it is given.  That this makes one attribute of all spellings of a name is not
said by the entries: it has to be restored by every change.

`Holding` is what there is of one attribute, and `Edit.record` says for one attribute alone what a
change makes of it: the spelling is the one it was first given since it was last absent.  A set
`Holds` a map from folded names when its entries are what the map has.  One change keeps that
(`Holds.apply`), so a history of changes does (`Holds.after`), and all that can be asked of a set
is read off the map.
-/
import Mathlib.Data.Set.Card
import ManagedLdap.Attributes
import ManagedLdap.Proofs.Text.Order

namespace ManagedLdap

set_option autoImplicit false

open Text (fold sameFold)

/-- The entries of a map are its look-ups. -/
theorem OrderedMap.mem_entries_iff {α : Type} (m : OrderedMap α) (key : String) (value : α) :
    (key, value) ∈ m.entries ↔ m.get? key = some value := by
  obtain ⟨entries, ordered⟩ := m
  unfold get?
  induction entries with
  | nil => simp
  | cons e rest ih =>
      obtain ⟨first, others⟩ := List.pairwise_cons.1 ordered
      by_cases here : e.1 = key
      · subst here
        have once : (e.1, value) ∉ rest := fun again =>
          absurd (first _ again) (String.lt_irrefl _)
        simp [once, Prod.ext_iff, eq_comm]
      · have other : (key, value) ≠ e := by
          rintro rfl
          exact here rfl
        simp [here, other, ih others]

namespace Attributes

/-! ## Changes -/

/-- A change of a set. -/
inductive Edit where
  /-- Add a value, also while a set is built. -/
  | add (name value : String)
  | put (name : String) (values : List String)
  | remove (name : String)
  /-- Begin anew with the attributes of a list. -/
  | collect (entries : List (String × List String))

namespace Edit

/-- Make a change. -/
def apply : Edit → Attributes → Attributes
  | .add name value, attrs => attrs.add name value
  | .put name values, attrs => attrs.put name values
  | .remove name, attrs => (attrs.remove name).2
  | .collect entries, _ => ofList entries

/-- The name of the attribute that is changed; a new set concerns all of them. -/
def name? : Edit → Option String
  | .add name _ | .put name _ | .remove name => some name
  | .collect _ => none

end Edit

/-- A set after changes that are made one after the other. -/
def after (attrs : Attributes) (history : List Edit) : Attributes :=
  history.foldl (fun attrs e => e.apply attrs) attrs

/-! ## One attribute -/

/-- What is held of an attribute. -/
structure Holding where
  spelling : String
  values : List String

/-- What is held under a folded name when `name` is given values, which may be made of those that
are there: the spelling stays, and an attribute that was absent is spelt as it is named. -/
def given (key name : String) (change : List String → List String) (held : Option Holding) :
    Option Holding :=
  if fold name = key then
    some ⟨(held.map Holding.spelling).getD name, change ((held.map Holding.values).getD [])⟩
  else held

/-- What a change makes of what is held under a folded name. -/
def Edit.record (key : String) : Edit → Option Holding → Option Holding
  | .add name value, held => given key name (· ++ [value]) held
  | .put name values, held => given key name (fun _ => values) held
  | .remove name, held => if fold name = key then none else held
  | .collect entries, _ =>
      entries.foldl (fun held e => given key e.1 (fun _ => e.2) held) none

/-- What is held under a folded name after changes of the empty set. -/
def recorded (history : List Edit) (key : String) : Option Holding :=
  history.foldl (fun held e => e.record key held) none

/-- The entries of a set are what a map from folded names has. -/
structure Holds (attrs : Attributes) (held : String → Option Holding) : Prop where
  stored (spelling : String) (values : List String) :
    attrs.values.get? spelling = some values ↔ held (fold spelling) = some ⟨spelling, values⟩
  keyed {key : String} {h : Holding} (found : held key = some h) : fold h.spelling = key

/-- No attribute has two spellings. -/
def OneSpelling (attrs : Attributes) : Prop :=
  attrs.toList.Pairwise fun a b => sameFold a.1 b.1 = false

/-- No name is listed twice, so it is enough that the spellings of one name are the same. -/
theorem oneSpelling_of_unique {attrs : Attributes}
    (unique : ∀ a ∈ attrs.toList, ∀ b ∈ attrs.toList, fold a.1 = fold b.1 → a.1 = b.1) :
    OneSpelling attrs := by
  refine List.Pairwise.imp_of_mem ?_ attrs.values.ordered
  intro a b first second before
  rw [← Bool.not_eq_true]
  intro same
  rw [unique a first b second (Text.sameFold_iff.1 same)] at before
  exact absurd before (String.lt_irrefl _)

/-- The spelling that a name is stored under is one of the name. -/
theorem fold_spelling (attrs : Attributes) (name : String) :
    fold ((attrs.spelling? name).getD name) = fold name := by
  unfold spelling?
  cases found : attrs.toList.find? fun e => sameFold e.1 name with
  | none => rfl
  | some e =>
      have same : sameFold e.1 name = true :=
        List.find?_some (p := fun e : String × List String => sameFold e.1 name) found
      exact Text.sameFold_iff.1 same

namespace Holds

variable {attrs : Attributes} {held : String → Option Holding}

theorem empty : Holds empty fun _ => none :=
  ⟨fun _ _ => by simp [Attributes.empty], fun found => by cases found⟩

theorem entries (holds : Holds attrs held) (spelling : String) (values : List String) :
    (spelling, values) ∈ attrs.toList ↔ held (fold spelling) = some ⟨spelling, values⟩ :=
  (attrs.values.mem_entries_iff spelling values).trans (holds.stored spelling values)

/-! ### Look-ups -/

/-- Looking for a name under any spelling finds what is held of it. -/
theorem find?_eq (holds : Holds attrs held) (name : String) :
    (attrs.toList.find? fun e => sameFold e.1 name) =
      (held (fold name)).map fun h => (h.spelling, h.values) := by
  cases found : held (fold name) with
  | none =>
      refine List.find?_eq_none.2 fun e among same => ?_
      have kept := (holds.entries e.1 e.2).1 among
      rw [Text.sameFold_iff.1 same, found] at kept
      cases kept
  | some h =>
      have key := holds.keyed found
      have among : (h.spelling, h.values) ∈ attrs.toList := by
        rw [holds.entries, key, found]
      cases met : attrs.toList.find? fun e => sameFold e.1 name with
      | none => exact absurd (Text.sameFold_iff.2 key) (List.find?_eq_none.1 met _ among)
      | some e =>
          have same : sameFold e.1 name = true :=
            List.find?_some (p := fun e : String × List String => sameFold e.1 name) met
          have kept := (holds.entries e.1 e.2).1 (List.mem_of_find?_eq_some met)
          rw [Text.sameFold_iff.1 same, found] at kept
          obtain rfl := Option.some.inj kept
          rfl

theorem get?_eq (holds : Holds attrs held) (name : String) :
    attrs.get? name = (held (fold name)).map Holding.values := by
  rw [Attributes.get?, holds.find?_eq, Option.map_map]
  rfl

theorem spelling?_eq (holds : Holds attrs held) (name : String) :
    attrs.spelling? name = (held (fold name)).map Holding.spelling := by
  rw [Attributes.spelling?, holds.find?_eq, Option.map_map]
  rfl

/-- What stands under the spelling of a name is what the name has. -/
theorem values_spelling (holds : Holds attrs held) (name : String) :
    attrs.values.get? ((attrs.spelling? name).getD name) = attrs.get? name := by
  rw [holds.spelling?_eq, holds.get?_eq]
  cases found : held (fold name) with
  | none =>
      cases kept : attrs.values.get? name with
      | none => simpa using kept
      | some values =>
          have stands := (holds.stored name values).1 kept
          rw [found] at stands
          cases stands
  | some h =>
      refine (holds.stored _ _).2 ?_
      rw [Option.map_some, Option.getD_some, holds.keyed found, found]

/-! ### One change -/

/-- An attribute is stored under no spelling but the one that is found. -/
theorem not_stored (holds : Holds attrs held) {name spelling : String}
    (same : fold name = fold spelling) (other : spelling ≠ (attrs.spelling? name).getD name)
    (values : List String) : attrs.values.get? spelling ≠ some values := by
  intro stored
  have kept := (holds.stored spelling values).1 stored
  rw [holds.spelling?_eq, same, kept] at other
  exact other rfl

/-- Giving values to a name under its spelling. -/
theorem give (holds : Holds attrs held) (name : String) (change : List String → List String) :
    Holds ⟨attrs.values.insert ((attrs.spelling? name).getD name)
        (change ((attrs.get? name).getD []))⟩ fun key => given key name change (held key) := by
  have key := attrs.fold_spelling name
  constructor
  · intro spelling values
    rw [OrderedMap.get?_insert, given]
    by_cases here : fold name = fold spelling
    · rw [if_pos here, ← here, ← holds.spelling?_eq, ← holds.get?_eq]
      -- Another spelling of the name is not stored, neither before nor after.
      by_cases spelt : spelling = (attrs.spelling? name).getD name
      · rw [if_pos spelt]
        simp [spelt]
      · rw [if_neg spelt]
        constructor
        · intro stored
          exact absurd stored (holds.not_stored here spelt values)
        · intro same
          have spelled := congrArg Holding.spelling (Option.some.inj same)
          exact absurd spelled.symm spelt
    · have other : spelling ≠ (attrs.spelling? name).getD name := by
        rintro rfl
        exact here key.symm
      rw [if_neg here, if_neg other]
      exact holds.stored spelling values
  · intro key' h found
    rw [given] at found
    by_cases here : fold name = key'
    · subst here
      rw [if_pos rfl, ← holds.spelling?_eq] at found
      obtain rfl := Option.some.inj found
      exact key
    · rw [if_neg here] at found
      exact holds.keyed found

theorem put (holds : Holds attrs held) (name : String) (values : List String) :
    Holds (attrs.put name values) fun key => given key name (fun _ => values) (held key) :=
  holds.give name fun _ => values

theorem add (holds : Holds attrs held) (name value : String) :
    Holds (attrs.add name value) fun key => given key name (· ++ [value]) (held key) := by
  have added := holds.give name (· ++ [value])
  rw [← holds.values_spelling] at added
  exact added

theorem remove (holds : Holds attrs held) (name : String) :
    Holds (attrs.remove name).2 fun key => if fold name = key then none else held key := by
  have spelt := holds.spelling?_eq name
  have folded := attrs.fold_spelling name
  have only {spelling : String} (same : fold name = fold spelling) := holds.not_stored same
  unfold Attributes.remove
  split
  · next absent =>
      have gone : held (fold name) = none := by
        rw [absent] at spelt
        exact Option.map_eq_none_iff.1 spelt.symm
      have same : (fun key => if fold name = key then none else held key) = held := by
        funext key
        split
        · next here => rw [← here, gone]
        · rfl
      rw [same]
      exact holds
  · next stands found =>
      rw [found, Option.getD_some] at folded only
      constructor
      · intro spelling values
        rw [OrderedMap.get?_erase]
        by_cases here : fold name = fold spelling
        · rw [if_pos here]
          constructor
          · intro stored
            split at stored
            · cases stored
            · next other => exact absurd stored (only here other values)
          · intro none
            cases none
        · have other : spelling ≠ stands := by
            rintro rfl
            exact here folded.symm
          rw [if_neg here, if_neg other]
          exact holds.stored spelling values
      · intro key h found
        split at found
        · cases found
        · exact holds.keyed found

/-- A list of attributes is put into a set one after the other. -/
theorem ofList (entries : List (String × List String)) :
    Holds (Attributes.ofList entries) fun key =>
      entries.foldl (fun held e => given key e.1 (fun _ => e.2) held) none := by
  have puts {attrs : Attributes} {held : String → Option Holding} (holds : Holds attrs held) :
      Holds (entries.foldl (fun attrs e => attrs.put e.1 e.2) attrs) fun key =>
        entries.foldl (fun held e => given key e.1 (fun _ => e.2) held) (held key) := by
    induction entries generalizing attrs held with
    | nil => exact holds
    | cons e entries ih => exact ih (holds.put e.1 e.2)
  exact puts Holds.empty

/-- **One change.**  The set makes of each attribute what the change makes of it. -/
theorem apply (holds : Holds attrs held) (e : Edit) :
    Holds (e.apply attrs) fun key => e.record key (held key) := by
  cases e with
  | add name value => exact holds.add name value
  | put name values => exact holds.put name values
  | remove name => exact holds.remove name
  | collect entries => exact .ofList entries

theorem after (holds : Holds attrs held) (history : List Edit) :
    Holds (attrs.after history) fun key =>
      history.foldl (fun held e => e.record key held) (held key) := by
  induction history generalizing attrs held with
  | nil => exact holds
  | cons e history ih => exact ih (holds.apply e)

/-! ### What a set that holds a map answers -/

theorem oneSpelling (holds : Holds attrs held) : OneSpelling attrs := by
  refine oneSpelling_of_unique fun a first b second same => ?_
  have kept := (holds.entries a.1 a.2).1 first
  rw [same, (holds.entries b.1 b.2).1 second] at kept
  exact (congrArg Holding.spelling (Option.some.inj kept)).symm

/-- There are as many attributes as folded names under which something is held. -/
theorem size_eq (holds : Holds attrs held) : attrs.size = {key | held key ≠ none}.ncard := by
  have distinct : (attrs.toList.map fun e => fold e.1).Nodup := by
    refine List.pairwise_map.2 (holds.oneSpelling.imp ?_)
    intro a b different same
    rw [Text.sameFold_iff.2 same] at different
    cases different
  -- The keys are the folded names of the entries, which are as many as the entries.
  have keys : {key | held key ≠ none} = ((attrs.toList.map fun e => fold e.1).toFinset : Set _) := by
    ext key
    simp only [Set.mem_ofPred_eq, List.coe_toFinset, List.mem_map]
    constructor
    · intro some
      obtain ⟨h, found⟩ := Option.ne_none_iff_exists'.1 some
      have key := holds.keyed found
      refine ⟨(h.spelling, h.values), ?_, key⟩
      rw [holds.entries, key, found]
    · rintro ⟨e, among, rfl⟩
      rw [(holds.entries e.1 e.2).1 among]
      exact Option.some_ne_none _
  rw [keys, Set.ncard_coe_finset, List.toFinset_card_of_nodup distinct, List.length_map]
  rfl

/-- Removing answers what was there, and leaves nothing under any spelling. -/
theorem remove_eq (holds : Holds attrs held) (name : String) :
    (attrs.remove name).1 = attrs.get? name ∧
      ∀ spelling, sameFold spelling name = true → (attrs.remove name).2.get? spelling = none := by
  constructor
  · have stands := holds.values_spelling name
    have spelt := holds.spelling?_eq name
    unfold Attributes.remove
    split
    · next absent =>
        rw [absent] at spelt
        rw [holds.get?_eq, Option.map_eq_none_iff.1 spelt.symm]
        rfl
    · next key found =>
        rw [found] at stands
        exact stands
  · intro spelling same
    rw [(holds.remove name).get?_eq, if_pos (Text.sameFold_iff.1 same).symm]
    rfl

/-- A change of one attribute leaves the others as they are. -/
theorem apply_other (holds : Holds attrs held) {e : Edit} {name : String}
    (concerns : e.name? = some name) {d : String × List String}
    (other : sameFold d.1 name = false) : d ∈ (e.apply attrs).toList ↔ d ∈ attrs.toList := by
  have away : fold name ≠ fold d.1 := by
    intro same
    rw [Text.sameFold_iff.2 same.symm] at other
    cases other
  have same (h : Option Holding) : e.record (fold d.1) h = h := by
    cases e with
    | add | put | remove =>
        obtain rfl := Option.some.inj concerns
        exact if_neg away
    | collect => cases concerns
  rw [(holds.apply e).entries, same, ← holds.entries]

end Holds

/-! ## Histories -/

/-- **One map, whatever the spelling.**  After any changes of the empty set no attribute has two
spellings, and the entries are what the changes make of each attribute for itself.  Each can be
asked for, and taken away, under every spelling of its name; a change of one attribute leaves the
others as they are; there are as many attributes as names that differ in more than letter case;
and they are listed in the order of the octets of their spellings. -/
theorem after_holds (history : List Edit) :
    let attrs := empty.after history
    OneSpelling attrs ∧
    (∀ spelling values, (spelling, values) ∈ attrs.toList ↔
      recorded history (fold spelling) = some ⟨spelling, values⟩) ∧
    (∀ name,
      let values := (recorded history (fold name)).map Holding.values
      attrs.get? name = values ∧ attrs.first? name = values.bind List.head? ∧
      (attrs.remove name).1 = values ∧
      ∀ spelling, sameFold spelling name = true → (attrs.remove name).2.get? spelling = none) ∧
    attrs.size = {key | recorded history key ≠ none}.ncard ∧
    (∀ e : Edit, ∀ name ∈ e.name?, ∀ d : String × List String, sameFold d.1 name = false →
      (d ∈ (e.apply attrs).toList ↔ d ∈ attrs.toList)) ∧
    attrs.toList.Pairwise fun a b => Text.encodeUtf8 a.1 < Text.encodeUtf8 b.1 := by
  intro attrs
  have holds : Holds attrs (recorded history) := Holds.empty.after history
  refine ⟨holds.oneSpelling, holds.entries, ?_, holds.size_eq, ?_, ?_⟩
  · intro name values
    obtain ⟨answer, gone⟩ := holds.remove_eq name
    have found : attrs.get? name = values := holds.get?_eq name
    refine ⟨found, ?_, answer.trans found, gone⟩
    rw [first?, found]
  · intro e name concerns d other
    exact holds.apply_other concerns other
  · exact attrs.values.ordered.imp Text.encodeUtf8_lt

/-- An attribute that is respelt keeps its spelling, and one that was taken away is spelt anew. -/
theorem after_holds_of_respelt :
    let history : List Edit := [.collect [("objectClass", ["top"]), ("CN", ["a"])],
      .add "OBJECTCLASS" "person", .remove "Cn", .put "cn" ["b"]]
    let attrs := empty.after history
    attrs.toList = [("cn", ["b"]), ("objectClass", ["top", "person"])] ∧
    attrs.get? "objectclass" = some ["top", "person"] ∧
    (attrs.remove "CN").2.get? "cn" = none ∧
    ("objectClass", ["top", "person"]) ∈ ((Edit.put "CN" []).apply attrs).toList := by
  intro history attrs
  have entries : attrs.toList = [("cn", ["b"]), ("objectClass", ["top", "person"])] := by
    decide +kernel
  obtain ⟨-, -, asked, -, apart, -⟩ := after_holds history
  obtain ⟨found, -⟩ := asked "objectclass"
  obtain ⟨-, -, -, gone⟩ := asked "CN"
  refine ⟨entries, found, gone "cn" (by decide), ?_⟩
  refine (apart (.put "CN" []) "CN" rfl ("objectClass", ["top", "person"]) (by decide)).2 ?_
  change ("objectClass", ["top", "person"]) ∈ attrs.toList
  rw [entries]
  exact List.mem_cons_of_mem _ List.mem_cons_self

end Attributes

end ManagedLdap
