/-
# ManagedLdap.Proofs.Attributes.Received -- an entry has the attributes that were received

The client hands an entry out as two maps, one of text and one of octets, which can be gone over in
any order.  Their attributes are put into one set in turn, and each of them looks for a spelling of
its name among those before it: of two names that differ in letter case only, the order would say
which spelling stays and whose values.  Servers give no such names, and then every attribute is
put beside the others (`toList_put_absent`), so that the set has what was received
(`toList_ofList`).  A set is listed by its names, so nothing remains of the order.
-/
import ManagedLdap.Ldap.Message
import ManagedLdap.Proofs.Attributes.Folded
import ManagedLdap.Proofs.Text.Base64

namespace ManagedLdap

set_option autoImplicit false

open Text (fold sameFold)

/-! ## Sets of attributes with different names -/

theorem Text.sameFold_comm (a b : String) : sameFold a b = sameFold b a :=
  BEq.comm

namespace OrderedMap

variable {α : Type}

/-- An entry with a new key comes beside the others. -/
theorem put_perm {key : String} (value : α) {entries : List (String × α)}
    (absent : ∀ e ∈ entries, e.1 ≠ key) :
    (put key value entries).Perm ((key, value) :: entries) := by
  induction entries with
  | nil => exact List.Perm.refl _
  | cons e rest ih =>
      obtain ⟨first, others⟩ := List.forall_mem_cons.1 absent
      rw [put, if_neg (Ne.symm first)]
      split
      · exact List.Perm.refl _
      · exact ((ih others).cons e).trans (List.Perm.swap _ _ _)

/-- Maps with the same entries in whatever order are one map. -/
theorem eq_of_perm {m n : OrderedMap α} (same : m.entries.Perm n.entries) : m = n := by
  have listed : m.entries = n.entries :=
    same.eq_of_pairwise
      (fun _ _ _ _ before after => absurd (String.lt_trans before after) (String.lt_irrefl _))
      m.ordered n.ordered
  cases m
  cases n
  cases listed
  rfl

end OrderedMap

namespace Attributes

/-- Attributes with names that differ in more than letter case. -/
def Apart (entries : List (String × List String)) : Prop :=
  entries.Pairwise fun a b => sameFold a.1 b.1 = false

/-- Whether names differ is not a matter of their order. -/
theorem apart_of_perm {entries others : List (String × List String)} (same : others.Perm entries)
    (apart : Apart entries) : Apart others :=
  same.symm.pairwise apart fun different => (Text.sameFold_comm _ _).trans different

/-- An attribute that there is not under any spelling comes beside the others. -/
theorem toList_put_absent {attrs : Attributes} {name : String} (values : List String)
    (absent : ∀ d ∈ attrs.toList, sameFold d.1 name = false) :
    (attrs.put name values).toList.Perm ((name, values) :: attrs.toList) := by
  have none : attrs.spelling? name = none := by
    rw [spelling?, Option.map_eq_none_iff, List.find?_eq_none]
    intro d among same
    rw [absent d among] at same
    cases same
  have new : ∀ d ∈ attrs.toList, d.1 ≠ name := by
    rintro d among rfl
    have same := absent d among
    rw [Text.sameFold_iff.2 rfl] at same
    cases same
  rw [put, none]
  exact OrderedMap.put_perm values new

/-- Attributes with names that are pairwise different, also from those that there are, come beside
them one after the other. -/
theorem toList_foldl_put {attrs : Attributes} {entries : List (String × List String)}
    (apart : Apart (attrs.toList ++ entries)) :
    (entries.foldl (fun attrs e => attrs.put e.1 e.2) attrs).toList.Perm
      (attrs.toList ++ entries) := by
  induction entries generalizing attrs with
  | nil => rw [List.append_nil]; exact List.Perm.refl _
  | cons e entries ih =>
      have absent : ∀ d ∈ attrs.toList, sameFold d.1 e.1 = false := fun d among =>
        (List.pairwise_append.1 apart).2.2 d among e List.mem_cons_self
      have beside : ((attrs.put e.1 e.2).toList ++ entries).Perm (attrs.toList ++ e :: entries) :=
        ((toList_put_absent e.2 absent).append_right entries).trans List.perm_middle.symm
      exact (ih (apart_of_perm beside apart)).trans beside

/-- A set that is made of attributes with different names has these. -/
theorem toList_ofList {entries : List (String × List String)}
    (apart : Apart entries) :
    (ofList entries).toList.Perm entries :=
  toList_foldl_put apart

/-- Sets that are made of the same attributes in different orders are one set. -/
theorem ofList_perm {entries others : List (String × List String)} (same : others.Perm entries)
    (apart : Apart entries) :
    ofList others = ofList entries := by
  have both : (ofList others).toList.Perm (ofList entries).toList :=
    (toList_ofList (apart_of_perm same apart)).trans
      (same.trans (toList_ofList apart).symm)
  exact congrArg Attributes.mk (OrderedMap.eq_of_perm both)

end Attributes

/-! ## Entries -/

namespace SearchEntry

open Attributes (Apart)

/-- The attributes that an entry is received with, octets in their Base64 form. -/
def received (e : SearchEntry) : List (String × List String) :=
  e.texts ++ e.binaries.map fun b => (b.1, b.2.map Text.base64)

theorem attributes_eq (e : SearchEntry) : e.attributes = Attributes.ofList e.received := by
  rw [attributes, Attributes.ofList, Attributes.ofList, received, List.foldl_append, List.foldl_map]

/-- The names of all attributes, of text and of octets, differ in more than letter case, as they
have to in what a server sends. -/
def NamesApart (e : SearchEntry) : Prop :=
  (e.texts.map Prod.fst ++ e.binaries.map Prod.fst).Pairwise fun a b => sameFold a b = false

theorem NamesApart.received {e : SearchEntry} (distinct : e.NamesApart) : Apart e.received := by
  have names : e.received.map Prod.fst = e.texts.map Prod.fst ++ e.binaries.map Prod.fst := by
    rw [SearchEntry.received, List.map_append, List.map_map]
    rfl
  rw [NamesApart, ← names, List.pairwise_map] at distinct
  exact distinct

/-- An entry whose maps are gone over in another order was received with the same attributes. -/
theorem received_perm {e other : SearchEntry} (texts : other.texts.Perm e.texts)
    (binaries : other.binaries.Perm e.binaries) : other.received.Perm e.received :=
  texts.append (binaries.map _)

/-- **What was received, in whatever order.**  An entry whose names are pairwise different has one
attribute for each of them, with the spelling it came with: its texts as they came, its octets in
the standard Base64 form that they can be read back from.  It can be asked for under any spelling.
Another order of the maps changes neither the attributes nor the search result. -/
theorem attributes_received (e : SearchEntry) (distinct : e.NamesApart) :
    e.attributes.toList.Perm (e.texts ++ e.binaries.map fun b => (b.1, b.2.map Text.base64)) ∧
    e.attributes.OneSpelling ∧
    (∀ a ∈ e.texts, ∀ name, sameFold a.1 name = true →
      e.attributes.spelling? name = some a.1 ∧ e.attributes.get? name = some a.2) ∧
    (∀ b ∈ e.binaries, (∀ name, sameFold b.1 name = true →
      e.attributes.spelling? name = some b.1 ∧
      e.attributes.get? name = some (b.2.map Text.base64)) ∧
      ∀ octets ∈ b.2, Text.Base64 octets (Text.base64 octets).toList ∧
        Text.ofBase64? (Text.base64 octets) = some octets) ∧
    ∀ other : SearchEntry, other.texts.Perm e.texts → other.binaries.Perm e.binaries →
      other.attributes = e.attributes ∧
      (other.dn = e.dn → ∀ base, other.result base = e.result base) := by
  have listed : e.attributes.toList.Perm e.received := by
    rw [attributes_eq]
    exact Attributes.toList_ofList distinct.received
  have holds := Attributes.Holds.ofList e.received
  rw [← attributes_eq] at holds
  have found {a : String × List String} (among : a ∈ e.received) {name : String}
      (same : sameFold a.1 name = true) :
      e.attributes.spelling? name = some a.1 ∧ e.attributes.get? name = some a.2 := by
    have kept := (holds.entries a.1 a.2).1 (listed.mem_iff.2 among)
    rw [Text.sameFold_iff.1 same] at kept
    rw [holds.spelling?_eq, holds.get?_eq, kept]
    exact ⟨rfl, rfl⟩
  refine ⟨listed, holds.oneSpelling, ?_, ?_, ?_⟩
  · intro a among name same
    exact found (List.mem_append_left _ among) same
  · intro b among
    constructor
    · intro name same
      exact found (List.mem_append_right _ (List.mem_map_of_mem among)) same
    · intro octets _
      refine ⟨?_, Text.ofBase64?_base64 octets⟩
      rw [Text.base64, String.toList_ofList]
      exact Text.base64Chars_standard octets
  · intro other texts binaries
    have same : other.attributes = e.attributes := by
      rw [attributes_eq, attributes_eq]
      exact Attributes.ofList_perm (received_perm texts binaries) distinct.received
    refine ⟨same, fun named base => ?_⟩
    rw [result, result, named, same]

/-- A photo beside a name with two values, received in two orders. -/
theorem attributes_received_of_photo :
    let e : SearchEntry :=
      ⟨"cn=a", [("cn", ["b", "a"]), ("sn", ["c"])], [("jpegPhoto", [[0xff, 0xd8]])]⟩
    let other : SearchEntry :=
      ⟨"cn=a", [("sn", ["c"]), ("cn", ["b", "a"])], [("jpegPhoto", [[0xff, 0xd8]])]⟩
    e.NamesApart ∧ other.attributes = e.attributes ∧
    e.attributes.get? "CN" = some ["b", "a"] ∧ e.attributes.get? "jpegphoto" = some ["/9g="] ∧
    Text.ofBase64? "/9g=" = some [0xff, 0xd8] := by
  intro e other
  have distinct : e.NamesApart := by
    unfold NamesApart
    decide
  have written : Text.base64 [0xff, 0xd8] = "/9g=" := by decide
  obtain ⟨-, -, texts, binaries, orders⟩ := attributes_received e distinct
  obtain ⟨same, -⟩ := orders other (List.Perm.swap _ _ _) (List.Perm.refl _)
  obtain ⟨-, name⟩ := texts ("cn", ["b", "a"]) List.mem_cons_self "CN" (by decide)
  obtain ⟨asked, back⟩ := binaries ("jpegPhoto", [[0xff, 0xd8]]) List.mem_cons_self
  obtain ⟨-, photo⟩ := asked "jpegphoto" (by decide)
  obtain ⟨-, octets⟩ := back [0xff, 0xd8] List.mem_cons_self
  rw [written] at octets
  rw [List.map_singleton, written] at photo
  exact ⟨distinct, same, name, photo, octets⟩

end SearchEntry

end ManagedLdap
