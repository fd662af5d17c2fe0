/-
# ManagedLdap.OrderedMap -- maps from text, in key order

Attribute sets, environments and the tables of a session are maps whose answers
show their entries by key, where keys are compared character by character (which
for UTF-8 is the order of their octets).  The entries are a list; that they are in
strict key order is part of the type, so no key occurs twice and two maps with the
same look-ups are the same list.
-/
namespace ManagedLdap

set_option autoImplicit false

/-- A map from text, listed in strict key order. -/
structure OrderedMap (α : Type) where
  entries : List (String × α)
  ordered : entries.Pairwise fun a b => a.1 < b.1
  deriving DecidableEq

namespace OrderedMap

variable {α : Type}

/-! ## Entry lists -/

/-- Put an entry into a list in key order, replacing the entry of that key. -/
def put (key : String) (value : α) : List (String × α) → List (String × α)
  | [] => [(key, value)]
  | e :: rest =>
      if key = e.1 then (key, value) :: rest
      else if key < e.1 then (key, value) :: e :: rest
      else e :: put key value rest

theorem mem_put {key : String} {value : α} {entries : List (String × α)} {e : String × α}
    (h : e ∈ put key value entries) : e = (key, value) ∨ e ∈ entries := by
  induction entries with
  | nil => simpa [put] using h
  | cons d rest ih =>
    simp only [put] at h
    split at h
    · rcases List.mem_cons.1 h with h | h
      · exact .inl h
      · exact .inr (List.mem_cons_of_mem _ h)
    · split at h
      · exact List.mem_cons.1 h
      · rcases List.mem_cons.1 h with h | h
        · exact .inr (h ▸ List.mem_cons_self)
        · exact (ih h).imp id (List.mem_cons_of_mem _)

theorem put_ordered {key : String} {value : α} {entries : List (String × α)}
    (h : entries.Pairwise fun a b => a.1 < b.1) :
    (put key value entries).Pairwise fun a b => a.1 < b.1 := by
  induction entries with
  | nil => simp [put]
  | cons e rest ih =>
    obtain ⟨hhead, hrest⟩ := List.pairwise_cons.1 h
    simp only [put]
    split
    · next heq => exact List.pairwise_cons.2 ⟨fun b hb => heq ▸ hhead b hb, hrest⟩
    · next hne =>
      split
      · next hlt =>
        refine List.pairwise_cons.2 ⟨fun b hb => ?_, h⟩
        rcases List.mem_cons.1 hb with rfl | hb
        · exact hlt
        · exact String.lt_trans hlt (hhead b hb)
      · next hge =>
        refine List.pairwise_cons.2 ⟨fun b hb => ?_, ih hrest⟩
        rcases mem_put hb with rfl | hb
        · rcases Decidable.em (e.1 < key) with hlt | hlt
          · exact hlt
          · exact absurd (String.le_antisymm (String.not_lt.1 hlt) (String.not_lt.1 hge)) hne
        · exact hhead b hb

/-! ## Maps -/

/-- The map without entries. -/
def empty : OrderedMap α := ⟨[], .nil⟩

instance : EmptyCollection (OrderedMap α) := ⟨empty⟩

instance : Inhabited (OrderedMap α) := ⟨empty⟩

/-- The value of a key. -/
def get? (m : OrderedMap α) (key : String) : Option α :=
  (m.entries.find? fun e => e.1 == key).map Prod.snd

/-- Give a key a value. -/
def insert (m : OrderedMap α) (key : String) (value : α) : OrderedMap α :=
  ⟨put key value m.entries, put_ordered m.ordered⟩

/-- Take a key away. -/
def erase (m : OrderedMap α) (key : String) : OrderedMap α :=
  ⟨m.entries.filter fun e => e.1 != key, m.ordered.filter _⟩

/-- The map of a list of entries, where the last entry of a key wins. -/
def ofList (entries : List (String × α)) : OrderedMap α :=
  entries.foldl (fun m e => m.insert e.1 e.2) empty

/-- The keys, in order. -/
def keys (m : OrderedMap α) : List String := m.entries.map Prod.fst

/-- How many keys have a value. -/
def size (m : OrderedMap α) : Nat := m.entries.length

theorem find_put (key k : String) (value : α) (entries : List (String × α)) :
    ((put key value entries).find? fun e => e.1 == k).map Prod.snd =
      if k = key then some value else (entries.find? fun e => e.1 == k).map Prod.snd := by
  induction entries with
  | nil =>
    by_cases h : k = key
    · simp [put, h]
    · simp [put, h, beq_eq_false_iff_ne.2 (Ne.symm h)]
  | cons e rest ih =>
    simp only [put]
    split
    · next heq =>
      subst heq
      by_cases h : k = e.1
      · simp [List.find?, h]
      · simp [List.find?, h, beq_eq_false_iff_ne.2 (Ne.symm h)]
    · split
      · by_cases h : k = key
        · simp [List.find?, h]
        · simp [List.find?, h, beq_eq_false_iff_ne.2 (Ne.symm h)]
      · next hne _ =>
        by_cases he : e.1 = k
        · have : ¬ k = key := fun h => hne (h.symm.trans he.symm)
          simp [List.find?, he, this]
        · simpa [List.find?, beq_eq_false_iff_ne.2 he] using ih

@[simp] theorem get?_empty (key : String) : (empty : OrderedMap α).get? key = none := rfl

/-- Inserting gives its key the value and leaves every other key alone. -/
theorem get?_insert (m : OrderedMap α) (key k : String) (value : α) :
    (m.insert key value).get? k = if k = key then some value else m.get? k :=
  find_put key k value m.entries

/-- Erasing leaves its key without a value and every other key alone. -/
theorem get?_erase (m : OrderedMap α) (key k : String) :
    (m.erase key).get? k = if k = key then none else m.get? k := by
  simp only [get?, erase, List.find?_filter]
  by_cases h : k = key
  · subst h
    simp
  · rw [if_neg h]
    congr 2
    funext e
    by_cases he : e.1 = k <;> simp [he, h]

end OrderedMap

end ManagedLdap
