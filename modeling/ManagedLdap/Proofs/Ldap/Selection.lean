/-
# ManagedLdap.Proofs.Ldap.Selection -- which attributes the two ways of reading ask for

The attributes of an entry can be read by its name, or found by a search, and a caller names the
attributes it wants either way.  To a server a selection is a list in which some words are special:
`*` stands for the user attributes, `1.1` for none, and so does no word at all for the user
attributes again.  Both ways have to say the same with it.

They do, unless the caller names no attribute: a search asks for none then, and reading by name
sends the empty list as it is (`readPaths_select`).  A server that honours its selections answers
that with the entire entry.
-/
import ManagedLdap.Proofs.Ldap.EntryReads

namespace ManagedLdap

set_option autoImplicit false

/-! ## What a selection means -/

/-- What a server knows of attributes, as far as selections need it. -/
structure AttributeKinds where
  /-- An attribute that is returned without being named. -/
  isUser : String → Prop
  /-- A word of a selection names an attribute. -/
  Names : String → String → Prop
  /-- The special words name nothing. -/
  reserved : ∀ a, ¬ Names "*" a ∧ ¬ Names "1.1" a

namespace AttributeKinds

variable (kinds : AttributeKinds)

/-- The attributes that a request with this selection asks for. -/
def Selects (selection : List String) (a : String) : Prop :=
  ((selection = [] ∨ "*" ∈ selection) ∧ kinds.isUser a) ∨
    ∃ word ∈ selection, kinds.Names word a

/-- The attributes that a caller asks for, who may leave it open which. -/
def Within : Option (List String) → String → Prop
  | none, a => kinds.isUser a
  | some ids, a =>
      ("*" ∈ ids ∧ kinds.isUser a) ∨ ∃ id ∈ ids, kinds.Names id a

theorem selects_star (a : String) :
    kinds.Selects ["*"] a ↔ kinds.isUser a := by
  simp [Selects, (kinds.reserved a).1]

theorem selects_of_ne_nil {selection : List String} (given : selection ≠ []) (a : String) :
    kinds.Selects selection a ↔ kinds.Within (some selection) a := by
  simp [Selects, Within, given]

/-- A search asks for what its caller asks for. -/
theorem selects_requested (controls : SearchControls) (a : String) :
    kinds.Selects (LdapDirContext.requestedAttributes controls) a ↔
      kinds.Within controls.returnAttributes a := by
  unfold LdapDirContext.requestedAttributes
  split
  · next left => rw [left, selects_star, Within]
  · next nothing =>
    rw [nothing, selects_of_ne_nil _ (List.cons_ne_nil _ _)]
    simp [Within, (kinds.reserved a).2]
  · next ids named given =>
    rw [given, selects_of_ne_nil _ named]

end AttributeKinds

/-! ## What is returned -/

namespace Attributes

/-- An attribute that is put has its name, or a spelling that was there before. -/
theorem names_put {P : String → Prop} {attrs : Attributes} {name : String} (values : List String)
    (named : P name) (before : ∀ e ∈ attrs.toList, P e.1) :
    ∀ e ∈ (attrs.put name values).toList, P e.1 := by
  intro e among
  rcases OrderedMap.mem_put among with rfl | kept
  · dsimp only
    unfold spelling?
    cases found : attrs.toList.find? fun e => Text.sameFold e.1 name with
    | none => exact named
    | some d => exact before d (List.mem_of_find?_eq_some found)
  · exact before e kept

theorem names_putAll {β : Type} {P : String → Prop} (values : β → List String)
    {entries : List (String × β)} (named : ∀ e ∈ entries, P e.1) {attrs : Attributes}
    (before : ∀ e ∈ attrs.toList, P e.1) :
    ∀ e ∈ (entries.foldl (fun attrs e => attrs.put e.1 (values e.2)) attrs).toList, P e.1 := by
  induction entries generalizing attrs with
  | nil => exact before
  | cons e entries ih =>
      obtain ⟨first, others⟩ := List.forall_mem_cons.1 named
      exact ih others (names_put _ first before)

end Attributes

/-- No attribute is handed out that the server did not send. -/
theorem Library.names_construct (l : Library) {P : String → Prop} {raw : RawEntry}
    (named : ∀ a ∈ raw.attributes, P a.1) :
    ∀ e ∈ (l.construct raw).attributes.toList, P e.1 := by
  have made : ∀ name ∈ (l.construct raw).names, P name := by
    intro name among
    obtain ⟨a, sent, rfl⟩ := List.mem_map.1 (l.construct_names raw name among)
    exact named a sent
  have nothing : ∀ e ∈ Attributes.empty.toList, P e.1 := List.forall_mem_nil _
  refine Attributes.names_putAll (fun octets : List Octets => octets.map Text.base64) ?_
    (Attributes.names_putAll id ?_ nothing)
  · exact fun e among => made e.1 (List.mem_append_right _ (List.mem_map_of_mem among))
  · exact fun e among => made e.1 (List.mem_append_left _ (List.mem_map_of_mem among))

namespace LdapDirContext

variable {κ : Type}

/-- What is read of an entry comes from the reply to the one request for it. -/
theorem names_getAttributes {P : String → Prop} {c : LdapDirContext} {link : LinkId}
    (held : c.connection = some link) {name : String} {ids : Option (List String)} {w : World κ}
    {attrs : Attributes} (read : (getAttributes name ids c w).1 = .ok attrs)
    (sent : ∀ raw ∈ Client.entries (w.network.nextReply link).messages,
      ∀ a ∈ raw.attributes, P a.1) : ∀ e ∈ attrs.toList, P e.1 := by
  rw [getAttributes_eq, readEntry_apply held] at read
  split at read
  · dsimp only [entryOf] at read
    split at read
    · cases read
    · split at read
      · cases read
      · cases read
      · next raw others _ first =>
        obtain rfl := Except.ok.inj read
        exact Library.names_construct _ (sent raw (first ▸ List.mem_cons_self))
  · cases read

end LdapDirContext

/-! ## What is asked for -/

/-- What a request selects, if it is a search. -/
def SentRequest.selection? (r : SentRequest) : Option (List String) :=
  match r.request with
  | .search spec => some spec.attributes
  | _ => none

/-- The selections of the searches that were sent over a connection, in order. -/
def Network.selections (n : Network) (k : LinkId) : List (List String) :=
  (n.sentOver k).filterMap SentRequest.selection?

namespace LdapDirContext

variable {κ : Type}

theorem selections_getAttributes (name : String) (ids : Option (List String)) (c : LdapDirContext)
    (w : World κ) (k : LinkId) :
    (getAttributes name ids c w).2.2.network.selections k = w.network.selections k ++
      if c.connection = some k ∧ w.network.isOpen k = true then [ids.getD ["*"]] else [] := by
  rw [getAttributes_eq, Network.selections, sentOver_readEntry, List.filterMap_append]
  split <;> rfl

theorem selections_search (name filter : String) (controls : SearchControls) (c : LdapDirContext)
    (w : World κ) (k : LinkId) :
    (search name filter controls c w).2.2.network.selections k = w.network.selections k ++
      if c.connection = some k ∧ w.network.isOpen k = true ∧
          Client.pagingClash c.requestControls (c.paging controls) = false ∧
          (Filter.parse? filter).isSome = true then
        [requestedAttributes controls]
      else [] := by
  rw [Network.selections, sentOver_search, List.filterMap_append]
  congr 1
  cases read : Filter.parse? filter with
  | none => simp [Client.opening, searchSpec, read]
  | some tree =>
      have request : Client.opening c.requestControls (c.paging controls)
          (searchSpec (c.resolve name) filter controls) =
            [⟨.search ((searchSpec (c.resolve name) filter controls).toRequest tree),
              Client.pageControls c.requestControls (c.paging controls) []⟩] := by
        simp [Client.opening, searchSpec, read]
      simp only [request, Option.isSome_some, and_true]
      split <;> rfl

/-- The two translations of the names that a caller gives differ in the empty list only. -/
theorem getD_eq_requested_iff (controls : SearchControls) :
    controls.returnAttributes.getD ["*"] = requestedAttributes controls ↔
      controls.returnAttributes ≠ some [] := by
  unfold requestedAttributes
  cases given : controls.returnAttributes with
  | none => simp
  | some ids => cases ids <;> simp

/-- **Both ways of reading attributes select the same, unless none is named.**  Reading an entry by
its name sends one search, whose selection is the list of the caller, or `*` where there is none.
A search with the same names, by a filter or by attributes, selects the same, save for the empty
list: it asks for nothing then.  So a search is for what its caller named, and reading by name is,
too, and brings nothing else from a server that honours the selection, but with the empty list it
is for all user attributes. -/
theorem readPaths_select (c : LdapDirContext) (w : World κ) (k : LinkId) (name : String)
    (ids : Option (List String)) :
    let read := ids.getD ["*"]
    let found := requestedAttributes (SearchControls.forAttributes ids)
    (getAttributes name ids c w).2.2.network.selections k = w.network.selections k ++
      (if c.connection = some k ∧ w.network.isOpen k = true then [read] else []) ∧
    (∀ (filter : String) (controls : SearchControls), controls.returnAttributes = ids →
      (search name filter controls c w).2.2.network.selections k = w.network.selections k ++
        if c.connection = some k ∧ w.network.isOpen k = true ∧
            Client.pagingClash c.requestControls (c.paging controls) = false ∧
            (Filter.parse? filter).isSome = true then
          [found]
        else []) ∧
    (∀ matching : Attributes,
      searchByAttributes name matching ids c w =
        search name (Filter.ofAttributes matching) (SearchControls.forAttributes ids) c w ∧
      (SearchControls.forAttributes ids).returnAttributes = ids) ∧
    (read = found ↔ ids ≠ some []) ∧
    ∀ kinds : AttributeKinds,
      (∀ a, kinds.Selects found a ↔ kinds.Within ids a) ∧
      (ids ≠ some [] → ∀ a, kinds.Selects read a ↔ kinds.Within ids a) ∧
      (ids = some [] → ∀ a, (kinds.Selects read a ↔ kinds.isUser a) ∧ ¬ kinds.Within ids a) ∧
      ∀ link attrs, c.connection = some link →
        (∀ raw ∈ Client.entries (w.network.nextReply link).messages,
          ∀ a ∈ raw.attributes, kinds.Selects read a.1) →
        (getAttributes name ids c w).1 = .ok attrs →
        ids ≠ some [] → ∀ e ∈ attrs.toList, kinds.Within ids e.1 := by
  intro read found
  have stated : (SearchControls.forAttributes ids).returnAttributes = ids := by
    cases ids <;> rfl
  refine ⟨selections_getAttributes name ids c w k, ?_, fun matching => ⟨rfl, stated⟩, ?_, ?_⟩
  · intro filter controls given
    have same : requestedAttributes controls = found := by
      rw [requestedAttributes, given, ← stated]
      rfl
    rw [selections_search, same]
  · have translated := getD_eq_requested_iff (SearchControls.forAttributes ids)
    rwa [stated] at translated
  · intro kinds
    have asksFor : ∀ a, kinds.Selects found a ↔ kinds.Within ids a := by
      intro a
      rw [kinds.selects_requested, stated]
    have reads : ids ≠ some [] → ∀ a, kinds.Selects read a ↔ kinds.Within ids a := by
      intro named a
      cases ids with
      | none => exact kinds.selects_star a
      | some ids => exact kinds.selects_of_ne_nil (fun empty => named (congrArg some empty)) a
    refine ⟨asksFor, reads, ?_, ?_⟩
    · rintro rfl a
      exact ⟨by simp [read, AttributeKinds.Selects], by simp [AttributeKinds.Within]⟩
    · intro link attrs held honoured answered named
      refine names_getAttributes held answered fun raw sent a among => ?_
      exact (reads named a.1).1 (honoured raw sent a among)

/-- One attribute is named, and a server that knows attributes by one name each sends it. -/
theorem readPaths_select_of_one_name :
    let w := answering [sending ⟨"cn=a,dc=x", [("cn", [[0x61]])]⟩]
    let kinds : AttributeKinds :=
      { isUser := fun _ => True
        Names := fun word a => word = a ∧ word ≠ "*" ∧ word ≠ "1.1"
        reserved := fun _ => ⟨fun named => named.2.1 rfl, fun named => named.2.2 rfl⟩ }
    (getAttributes "cn=a" (some ["cn"]) listener w).1 = .ok (Attributes.ofList [("cn", ["a"])]) ∧
    (∀ raw ∈ Client.entries (w.network.nextReply 0).messages,
      ∀ a ∈ raw.attributes, kinds.Selects ["cn"] a.1) ∧
    ∀ e ∈ (Attributes.ofList [("cn", ["a"])]).toList, kinds.Within (some ["cn"]) e.1 := by
  intro w kinds
  have held : listener.connection = some 0 := rfl
  have read : (getAttributes "cn=a" (some ["cn"]) listener w).1 =
      .ok (Attributes.ofList [("cn", ["a"])]) := by
    rw [getAttributes_eq, readEntry_apply held]
    decide +kernel
  have honoured : ∀ raw ∈ Client.entries (w.network.nextReply 0).messages,
      ∀ a ∈ raw.attributes, kinds.Selects ["cn"] a.1 := by
    intro raw sent a among
    obtain rfl := List.mem_singleton.1 sent
    obtain rfl := List.mem_singleton.1 among
    exact .inr ⟨"cn", List.mem_singleton.2 rfl, rfl, by decide, by decide⟩
  obtain ⟨-, -, -, -, means⟩ := readPaths_select listener w 0 "cn=a" (some ["cn"])
  exact ⟨read, honoured, (means kinds).2.2.2 0 _ held honoured read (by decide)⟩

/-- No attribute is named: a search asks for none, reading by name asks for all of them, and hands
out what comes. -/
theorem getAttributes_of_no_names :
    let w := answering [sending ⟨"cn=a,dc=x", [("cn", [[0x61]])]⟩]
    (search "cn=a" Filter.matchAll (SearchControls.forAttributes (some [])) listener
        w).2.2.network.selections 0 = [["1.1"]] ∧
    (getAttributes "cn=a" (some []) listener w).2.2.network.selections 0 = [[]] ∧
    (getAttributes "cn=a" (some []) listener w).1 = .ok (Attributes.ofList [("cn", ["a"])]) ∧
    ∀ kinds : AttributeKinds, ¬ kinds.Within (some []) "cn" := by
  intro w
  refine ⟨?_, ?_, ?_, fun kinds => ?_⟩
  · rw [selections_search, Filter.parse?_matchAll]
    decide
  · rw [selections_getAttributes]
    decide
  · have held : listener.connection = some 0 := rfl
    rw [getAttributes_eq, readEntry_apply held]
    decide +kernel
  · simp [AttributeKinds.Within]

end LdapDirContext

end ManagedLdap
