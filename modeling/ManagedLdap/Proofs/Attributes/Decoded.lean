/-
# ManagedLdap.Proofs.Attributes.Decoded -- attribute sets that were read from JSON

Reading a set from JSON takes the names of an object as they are.  Every other way to make a set
looks for a spelling that is there; this one does not, so an object with two spellings of a name
becomes a set with two attributes, of which a look-up finds the first.

How many `spellings` an attribute has is all that later changes depend on: giving values makes one
of none and leaves any other number, and removing takes one away (`Edit.recount`).  So a set that
was read keeps to one spelling for each attribute just when the object does, and removing an
attribute makes it absent just when it had at most one.
-/
import ManagedLdap.Ldap.DirContext
import ManagedLdap.Proofs.Attributes.Folded
import ManagedLdap.Proofs.Filter.Reading

namespace ManagedLdap

set_option autoImplicit false

open Text (fold sameFold)

namespace OrderedMap

variable {α : Type}

theorem mem_keys_iff (m : OrderedMap α) (key : String) : key ∈ m.keys ↔ m.get? key ≠ none := by
  rw [Option.ne_none_iff_exists', keys, List.mem_map]
  constructor
  · rintro ⟨e, among, rfl⟩
    exact ⟨e.2, (m.mem_entries_iff e.1 e.2).1 among⟩
  · rintro ⟨value, found⟩
    exact ⟨(key, value), (m.mem_entries_iff key value).2 found, rfl⟩

theorem mem_keys_insert (m : OrderedMap α) (key k : String) (value : α) :
    k ∈ (m.insert key value).keys ↔ k = key ∨ k ∈ m.keys := by
  rw [mem_keys_iff, mem_keys_iff, get?_insert]
  by_cases here : k = key <;> simp [here]

theorem mem_keys_erase (m : OrderedMap α) (key k : String) :
    k ∈ (m.erase key).keys ↔ k ∈ m.keys ∧ k ≠ key := by
  rw [mem_keys_iff, mem_keys_iff, get?_erase]
  by_cases here : k = key <;> simp [here]

theorem mem_keys_ofList (entries : List (String × α)) (key : String) :
    key ∈ (ofList entries).keys ↔ key ∈ entries.map Prod.fst := by
  have inserts (m : OrderedMap α) :
      key ∈ (entries.foldl (fun m e => m.insert e.1 e.2) m).keys ↔
        key ∈ entries.map Prod.fst ∨ key ∈ m.keys := by
    induction entries generalizing m with
    | nil => simp
    | cons e entries ih =>
        rw [List.foldl_cons, ih, mem_keys_insert, List.map_cons, List.mem_cons]
        tauto
  rw [ofList, inserts]
  simp [keys, empty]

end OrderedMap

namespace Attributes

variable {attrs : Attributes}

/-! ## Spellings -/

/-- The spellings under which a set has the attribute of a folded name. -/
def spellings (attrs : Attributes) (key : String) : Set String :=
  {s | s ∈ attrs.values.keys ∧ fold s = key}

theorem spellings_finite (attrs : Attributes) (key : String) : (attrs.spellings key).Finite :=
  (List.finite_toSet attrs.values.keys).subset fun _ among => among.1

theorem spelling?_eq_none_iff {name : String} :
    attrs.spelling? name = none ↔ attrs.spellings (fold name) = ∅ := by
  rw [spelling?, Option.map_eq_none_iff, List.find?_eq_none, Set.eq_empty_iff_forall_notMem]
  constructor
  · rintro none s ⟨among, same⟩
    obtain ⟨e, within, rfl⟩ := List.mem_map.1 among
    exact none e within (Text.sameFold_iff.2 same)
  · intro none e within same
    exact none e.1 ⟨List.mem_map_of_mem within, Text.sameFold_iff.1 same⟩

theorem get?_eq_none_iff {name : String} :
    attrs.get? name = none ↔ attrs.spellings (fold name) = ∅ := by
  rw [← spelling?_eq_none_iff, Attributes.get?, spelling?, Option.map_eq_none_iff,
    Option.map_eq_none_iff]

theorem mem_spellings {name spelling : String} (found : attrs.spelling? name = some spelling) :
    spelling ∈ attrs.spellings (fold name) := by
  have same := attrs.fold_spelling name
  rw [found] at same
  obtain ⟨e, met, rfl⟩ := Option.map_eq_some_iff.1 found
  exact ⟨List.mem_map_of_mem (List.mem_of_find?_eq_some met), same⟩

theorem OneSpelling.unique (one : OneSpelling attrs) {a b : String × List String}
    (first : a ∈ attrs.toList) (second : b ∈ attrs.toList) (same : fold a.1 = fold b.1) :
    a = b := by
  by_contra different
  have symmetric : Std.Symm fun a b : String × List String => sameFold a.1 b.1 = false := by
    refine ⟨fun a b apart => ?_⟩
    rw [← Bool.not_eq_true] at apart ⊢
    intro same
    exact apart (Text.sameFold_iff.2 (Text.sameFold_iff.1 same).symm)
  have apart := List.Pairwise.forall one first second different
  rw [Text.sameFold_iff.2 same] at apart
  cases apart

/-- A set keeps to one spelling when none of its attributes has two. -/
theorem oneSpelling_iff : OneSpelling attrs ↔ ∀ key, (attrs.spellings key).ncard ≤ 1 := by
  simp only [Set.ncard_le_one (attrs.spellings_finite _)]
  constructor
  · rintro one key s ⟨first, rfl⟩ t ⟨second, same⟩
    obtain ⟨a, amongst, rfl⟩ := List.mem_map.1 first
    obtain ⟨b, among, rfl⟩ := List.mem_map.1 second
    exact congrArg Prod.fst (one.unique amongst among same.symm)
  · intro single
    refine oneSpelling_of_unique fun a first b second same => ?_
    exact single (fold b.1) a.1 ⟨List.mem_map_of_mem first, same⟩ b.1
      ⟨List.mem_map_of_mem second, rfl⟩

/-! ## How changes count -/

/-- Giving values to a name stores it under the spelling that is found for it. -/
theorem spellings_give (attrs : Attributes) (name : String) (values : List String) (key : String) :
    spellings ⟨attrs.values.insert ((attrs.spelling? name).getD name) values⟩ key =
      if fold name = key then insert ((attrs.spelling? name).getD name) (attrs.spellings key)
      else attrs.spellings key := by
  have folded := attrs.fold_spelling name
  ext s
  by_cases here : fold name = key
  · simp only [spellings, if_pos here, Set.mem_ofPred_eq, Set.mem_insert_iff,
      OrderedMap.mem_keys_insert]
    constructor
    · rintro ⟨rfl | among, same⟩
      · exact .inl rfl
      · exact .inr ⟨among, same⟩
    · rintro (rfl | ⟨among, same⟩)
      · exact ⟨.inl rfl, folded.trans here⟩
      · exact ⟨.inr among, same⟩
  · simp only [spellings, if_neg here, Set.mem_ofPred_eq, OrderedMap.mem_keys_insert]
    constructor
    · rintro ⟨rfl | among, same⟩
      · exact absurd (folded.symm.trans same) here
      · exact ⟨among, same⟩
    · rintro ⟨among, same⟩
      exact ⟨.inr among, same⟩

/-- Giving values to a name leaves it with one spelling at least. -/
theorem ncard_spellings_give (attrs : Attributes) (name : String) (values : List String)
    (key : String) :
    (spellings ⟨attrs.values.insert ((attrs.spelling? name).getD name) values⟩ key).ncard =
      if fold name = key then max (attrs.spellings key).ncard 1
      else (attrs.spellings key).ncard := by
  rw [spellings_give]
  by_cases here : fold name = key
  · subst here
    rw [if_pos rfl, if_pos rfl]
    cases found : attrs.spelling? name with
    | none =>
        rw [spelling?_eq_none_iff.1 found, insert_empty_eq, Set.ncard_singleton, Set.ncard_empty]
        rfl
    | some spelling =>
        have among := mem_spellings found
        have some : 0 < (attrs.spellings (fold name)).ncard :=
          (Set.ncard_pos (attrs.spellings_finite _)).2 ⟨spelling, among⟩
        rw [Option.getD_some, Set.insert_eq_of_mem among]
        omega
  · rw [if_neg here, if_neg here]

/-- Removing a name takes one of its spellings away. -/
theorem ncard_spellings_remove (attrs : Attributes) (name key : String) :
    ((attrs.remove name).2.spellings key).ncard =
      if fold name = key then (attrs.spellings key).ncard - 1
      else (attrs.spellings key).ncard := by
  unfold remove
  split
  · next absent =>
      by_cases here : fold name = key
      · subst here
        rw [if_pos rfl, spelling?_eq_none_iff.1 absent, Set.ncard_empty]
      · rw [if_neg here]
  · next spelling found =>
      have among := mem_spellings found
      have spelt : spellings ⟨attrs.values.erase spelling⟩ key =
          attrs.spellings key \ {spelling} := by
        ext s
        simp only [spellings, Set.mem_ofPred_eq, Set.mem_sdiff, Set.mem_singleton_iff,
          OrderedMap.mem_keys_erase]
        tauto
      rw [spelt]
      by_cases here : fold name = key
      · subst here
        rw [if_pos rfl, Set.ncard_sdiff_singleton_of_mem among]
      · have away : spelling ∉ attrs.spellings key := fun within =>
          here (among.2.symm.trans within.2)
        rw [if_neg here, Set.sdiff_singleton_eq_self away]

/-- After a removal an attribute is absent just when it had one spelling at most. -/
theorem remove_absent_iff (attrs : Attributes) (name : String) :
    (∀ spelling, sameFold spelling name = true → (attrs.remove name).2.get? spelling = none) ↔
      (attrs.spellings (fold name)).ncard ≤ 1 := by
  have counted := ncard_spellings_remove attrs name (fold name)
  rw [if_pos rfl] at counted
  have finite := (attrs.remove name).2.spellings_finite (fold name)
  constructor
  · intro absent
    have none := get?_eq_none_iff.1 (absent name (Text.sameFold_refl name))
    rw [none, Set.ncard_empty] at counted
    omega
  · intro single spelling same
    rw [get?_eq_none_iff, Text.sameFold_iff.1 same, ← Set.ncard_eq_zero finite]
    omega

namespace Edit

/-- What a change makes of the number of spellings of a folded name. -/
def recount (key : String) : Edit → Nat → Nat
  | .add name _, n | .put name _, n => if fold name = key then max n 1 else n
  | .remove name, n => if fold name = key then n - 1 else n
  | .collect entries, _ => entries.foldl (fun n e => if fold e.1 = key then max n 1 else n) 0

theorem recount_le_one (key : String) (e : Edit) {n : Nat} (single : n ≤ 1) :
    e.recount key n ≤ 1 := by
  have give (name : String) {n : Nat} (single : n ≤ 1) :
      (if fold name = key then max n 1 else n) ≤ 1 := by
    split <;> omega
  cases e with
  | add name value => exact give name single
  | put name values => exact give name single
  | remove name =>
      rw [recount]
      split <;> omega
  | collect entries =>
      have puts {m : Nat} (single : m ≤ 1) :
          entries.foldl (fun n e => if fold e.1 = key then max n 1 else n) m ≤ 1 := by
        induction entries generalizing m with
        | nil => exact single
        | cons e entries ih => exact ih (give e.1 single)
      exact puts (Nat.zero_le 1)

end Edit

theorem ncard_spellings_apply (attrs : Attributes) (e : Edit) (key : String) :
    ((e.apply attrs).spellings key).ncard = e.recount key (attrs.spellings key).ncard := by
  cases e with
  | add name value => exact ncard_spellings_give attrs name _ key
  | put name values => exact ncard_spellings_give attrs name values key
  | remove name => exact ncard_spellings_remove attrs name key
  | collect entries =>
      have puts (attrs : Attributes) :
          ((entries.foldl (fun attrs e => attrs.put e.1 e.2) attrs).spellings key).ncard =
            entries.foldl (fun n e => if fold e.1 = key then max n 1 else n)
              (attrs.spellings key).ncard := by
        induction entries generalizing attrs with
        | nil => rfl
        | cons e entries ih =>
            rw [List.foldl_cons, ih, List.foldl_cons, Attributes.put, ncard_spellings_give]
      have none : (empty.spellings key).ncard = 0 := by
        have absent : empty.spellings key = ∅ := by
          ext s
          simp [spellings, empty, OrderedMap.empty, OrderedMap.keys]
        rw [absent, Set.ncard_empty]
      have made := puts empty
      rw [none] at made
      exact made

theorem ncard_spellings_after (attrs : Attributes) (history : List Edit) (key : String) :
    ((attrs.after history).spellings key).ncard =
      history.foldl (fun n e => e.recount key n) (attrs.spellings key).ncard := by
  induction history generalizing attrs with
  | nil => rfl
  | cons e history ih =>
      rw [List.foldl_cons, ← ncard_spellings_apply]
      exact ih (e.apply attrs)

/-! ## Sets that were read -/

/-- The names that an object gives, as they are written. -/
def givenNames : Json → List String
  | .object members => members.filterMap Prod.fst
  | _ => []

theorem map_fst_of_mapM {members : List (Json.Literal × Json)}
    {entries : List (String × List String)} (read : members.mapM entry? = some entries) :
    entries.map Prod.fst = members.filterMap Prod.fst := by
  induction members generalizing entries with
  | nil =>
      obtain rfl : [] = entries := by simpa using read
      rfl
  | cons member members ih =>
      rw [List.mapM_cons] at read
      obtain ⟨e, first, read⟩ := Option.bind_eq_some_iff.1 read
      obtain ⟨others, behind, made⟩ := Option.bind_eq_some_iff.1 read
      obtain rfl := Option.some.inj made
      obtain ⟨name, named, read⟩ := Option.bind_eq_some_iff.1 first
      obtain ⟨values, -, made⟩ := Option.bind_eq_some_iff.1 read
      obtain rfl := Option.some.inj made
      rw [List.map_cons, ih behind, List.filterMap_cons, named]

/-- A set that was read has the spellings that were given. -/
theorem spellings_of_read {json : Json} (accepted : ofJson? json = some attrs) (key : String) :
    attrs.spellings key = {s | s ∈ givenNames json ∧ fold s = key} := by
  cases json with
  | object members =>
      obtain ⟨entries, read, rfl⟩ := Option.map_eq_some_iff.1 accepted
      ext s
      simp only [spellings, givenNames, Set.mem_ofPred_eq, OrderedMap.mem_keys_ofList,
        map_fst_of_mapM read]
  | _ => cases accepted

/-! ### What a set is turned into -/

/-- The attributes that the filter of a set speaks of. -/
def assertedNames (attrs : Attributes) : List String :=
  (attrs.toList.flatMap Filter.assertionsOf).filterMap fun
    | .equal name _ | .present name => some name
    | _ => none

theorem exists_of_mem_assertedNames {name : String} (asserted : name ∈ attrs.assertedNames) :
    ∃ e ∈ attrs.toList, e.1 = name := by
  obtain ⟨tree, within, about⟩ := List.mem_filterMap.1 asserted
  obtain ⟨e, among, made⟩ := List.mem_flatMap.1 within
  refine ⟨e, among, ?_⟩
  obtain ⟨own, values⟩ := e
  cases values with
  | nil =>
      obtain rfl := List.mem_singleton.1 made
      exact Option.some.inj about
  | cons value values =>
      obtain ⟨v, -, rfl⟩ := List.mem_map.1 made
      exact Option.some.inj about

/-- Modifications and the attributes of an entry name each attribute once, and a filter names it
in one spelling. -/
structure NamesOnce (attrs : Attributes) : Prop where
  modifications (op : ModOp) : (Modification.ofAttributes op attrs).Pairwise fun a b =>
    sameFold a.name b.name = false
  entry : (LdapDirContext.sentAttributes attrs).Pairwise fun a b => sameFold a.1 b.1 = false
  filter : ∀ a ∈ attrs.assertedNames, ∀ b ∈ attrs.assertedNames, sameFold a b = true → a = b

theorem namesOnce_iff : NamesOnce attrs ↔ OneSpelling attrs := by
  constructor
  · intro once
    exact List.pairwise_map.1 (once.modifications .add)
  · intro one
    refine ⟨fun op => List.pairwise_map.2 one, List.pairwise_map.2 (one.filter _), ?_⟩
    intro a first b second same
    obtain ⟨d, amongst, rfl⟩ := exists_of_mem_assertedNames first
    obtain ⟨e, among, rfl⟩ := exists_of_mem_assertedNames second
    exact congrArg Prod.fst (one.unique amongst among (Text.sameFold_iff.1 same))

/-! ### The rule for sets that were read -/

/-- **Sets from JSON.**  Such a set keeps to one spelling for each attribute, now and after any
changes, just when the object does.  In any case the changes count the spellings of an attribute
on from those that the object gives.  At any time the set keeps to one spelling when no count is
above one, which is when all that it is turned into names each attribute once; and removing an
attribute makes it absent just when its count is not above one. -/
theorem read_oneSpelling_iff {json : Json} (accepted : ofJson? json = some attrs) :
    ((∀ history, OneSpelling (attrs.after history)) ↔
      ∀ a ∈ givenNames json, ∀ b ∈ givenNames json, sameFold a b = true → a = b) ∧
    ∀ history,
      let later := attrs.after history
      (∀ key, (later.spellings key).ncard = history.foldl (fun n e => e.recount key n)
        {s | s ∈ givenNames json ∧ fold s = key}.ncard) ∧
      (OneSpelling later ↔ ∀ key, (later.spellings key).ncard ≤ 1) ∧
      (NamesOnce later ↔ OneSpelling later) ∧
      ∀ name,
        (∀ spelling, sameFold spelling name = true → (later.remove name).2.get? spelling = none) ↔
          (later.spellings (fold name)).ncard ≤ 1 := by
  have read := spellings_of_read accepted
  have counted (history : List Edit) (key : String) := ncard_spellings_after attrs history key
  constructor
  · constructor
    · intro always a first b second same
      -- It is enough to look before any change.
      have single := oneSpelling_iff.1 (always []) (fold b)
      rw [Set.ncard_le_one (spellings_finite _ _)] at single
      change ∀ s ∈ attrs.spellings (fold b), ∀ t ∈ attrs.spellings (fold b), s = t at single
      rw [read] at single
      exact single a ⟨first, Text.sameFold_iff.1 same⟩ b ⟨second, rfl⟩
    · intro one history
      refine oneSpelling_iff.2 fun key => ?_
      have start : (attrs.spellings key).ncard ≤ 1 := by
        rw [Set.ncard_le_one (spellings_finite _ _), read]
        rintro s ⟨first, rfl⟩ t ⟨second, same⟩
        exact one s first t second (Text.sameFold_iff.2 same.symm)
      rw [counted]
      generalize (attrs.spellings key).ncard = n at start
      induction history generalizing n with
      | nil => exact start
      | cons e history ih => exact ih _ (e.recount_le_one key start)
  · intro history later
    refine ⟨fun key => ?_, oneSpelling_iff, namesOnce_iff, later.remove_absent_iff⟩
    rw [← read, ← counted]

/-- An object with one spelling of each name, and changes under others. -/
theorem read_oneSpelling_iff_of_mixed_case :
    ofJson? (.record [("objectClass", .texts ["top"]), ("CN", .texts ["a"])]) =
        some (ofList [("objectClass", ["top"]), ("CN", ["a"])]) ∧
    let later := (ofList [("objectClass", ["top"]), ("CN", ["a"])]).after
      [.add "OBJECTCLASS" "person", .remove "cn", .put "cn" []]
    NamesOnce later ∧
    (sameFold "Cn" "cN" = true → (later.remove "cN").2.get? "Cn" = none) := by
  have accepted : ofJson? (.record [("objectClass", .texts ["top"]), ("CN", .texts ["a"])]) =
      some (ofList [("objectClass", ["top"]), ("CN", ["a"])]) := by decide +kernel
  obtain ⟨rule, counts⟩ := read_oneSpelling_iff accepted
  have one := rule.2 (by decide +kernel)
    [.add "OBJECTCLASS" "person", .remove "cn", .put "cn" []]
  obtain ⟨-, single, names, absent⟩ := counts
    [.add "OBJECTCLASS" "person", .remove "cn", .put "cn" []]
  exact ⟨accepted, names.2 one, (absent "cN").2 (single.1 one _) "Cn"⟩

/-- Two spellings of a name that an object gives stand side by side: a removal takes one of them,
and there are two modifications of one attribute. -/
theorem read_spellings_side_by_side :
    ∃ attrs, (Json.parse "\x7b\"cn\":[\"a\"],\"CN\":[\"b\"]\x7d").bind ofJson? = some attrs ∧
      ¬ OneSpelling attrs ∧ (attrs.remove "cn").2.get? "cn" = some ["a"] ∧
      (Modification.ofAttributes .replace attrs).map Modification.name = ["CN", "cn"] := by
  refine ⟨⟨OrderedMap.ofList [("cn", ["a"]), ("CN", ["b"])]⟩, ?_, ?_, ?_, ?_⟩
  · decide +kernel
  · unfold OneSpelling
    decide +kernel
  · decide +kernel
  · decide +kernel

end Attributes

end ManagedLdap
