/-
# ManagedLdap.Ldap.Library -- what is left to the client library

Some of what a caller sees of a search is decided by the library that reads the messages, and
not by the server or by this program: how a search that is read at once is handed out, how the
result of a page is told to be the last one, how an entry is split into text and octets, and
which request a search counts as its latest.  A `Library` is any way to decide these.  Its laws
are what its documentation says and this program relies on; beyond them nothing is known of it.

`Library.standard` is one that does what is usual.
-/
import ManagedLdap.Ldap.Message

namespace ManagedLdap

set_option autoImplicit false

namespace Client

/-- The continuation references among messages, in order. -/
def references (messages : List SearchMessage) : List String :=
  messages.flatMap fun
    | .reference urls => urls
    | _ => []

/-- The entries among messages, in order. -/
def entries (messages : List SearchMessage) : List RawEntry :=
  messages.filterMap fun
    | .entry e => some e
    | _ => none

/-- What a result says of the pages after its own. -/
inductive PageMark where
  | last
  /-- There is another page, at this cookie. -/
  | more (cookie : Octets)
  /-- The control that should say it cannot be read. -/
  | unreadable
  deriving DecidableEq

end Client

/-- A way to read what arrives. -/
structure Library where
  /-- What a search that is read at once hands out of its messages and its result. -/
  collect : List SearchMessage → LdapResult → List SearchMessage × LdapResult
  /-- What a result says of the pages after its own. -/
  pageMark : LdapResult → Client.PageMark
  /-- The entry of a message. -/
  construct : RawEntry → SearchEntry
  /-- The place of the latest request of a search, given that of its first request and that of
  the last one that was sent for it. -/
  latest : (first last : Nat) → Nat
  /-- No entry is lost, added or moved. -/
  collect_entries : ∀ messages result,
    Client.entries (collect messages result).1 = Client.entries messages
  /-- A result is handed out as it came, but for its addresses. -/
  collect_result : ∀ messages result,
    ∃ refs, (collect messages result).2 = { result with refs := refs }
  /-- Without continuation references there are no other addresses than those of the result. -/
  collect_refs : ∀ messages result, Client.references messages = [] →
    (collect messages result).2.refs = result.refs
  /-- Without a control for paging there is no other page. -/
  pageMark_last : ∀ result : LdapResult,
    (∀ c ∈ result.controls, c.oid ≠ Control.pagedResults) → pageMark result = .last
  construct_dn : ∀ e, (construct e).dn = e.dn
  /-- No attribute is made up. -/
  construct_names : ∀ e, ∀ name ∈ (construct e).names, name ∈ e.attributes.map Prod.fst
  /-- A request that was sent for a search is its latest one. -/
  latest_last : ∀ first last, latest first last = last

namespace Library

@[simp] theorem collect_controls (l : Library) (messages : List SearchMessage) (r : LdapResult) :
    (l.collect messages r).2.controls = r.controls := by
  obtain ⟨refs, same⟩ := l.collect_result messages r
  rw [same]

/-! ## The usual way -/

/-- The first control for paging decides. -/
def firstMark (result : LdapResult) : Client.PageMark :=
  match result.controls.find? fun c => c.oid == Control.pagedResults with
  | none => .last
  | some control =>
      match control.value.bind Ber.pageCookie? with
      | none => .unreadable
      | some cookie => if cookie.isEmpty then .last else .more cookie

theorem firstMark_last {result : LdapResult}
    (unpaged : ∀ c ∈ result.controls, c.oid ≠ Control.pagedResults) :
    firstMark result = .last := by
  have none : (result.controls.find? fun c => c.oid == Control.pagedResults) = none :=
    List.find?_eq_none.2 fun c among => by simpa using unpaged c among
  rw [firstMark, none]

/-- The usual library: a search that is read at once has the addresses of its continuation
references after those of its result. -/
def standard : Library where
  collect messages r := (messages, { r with refs := r.refs ++ Client.references messages })
  pageMark := firstMark
  construct := SearchEntry.ofRaw
  latest _ last := last
  collect_entries _ _ := rfl
  collect_result _ _ := ⟨_, rfl⟩
  collect_refs _ r none := by rw [none, List.append_nil]
  pageMark_last _ := firstMark_last
  construct_dn _ := rfl
  construct_names := SearchEntry.names_ofRaw
  latest_last _ _ := rfl

end Library

instance : Inhabited Library := ⟨.standard⟩

end ManagedLdap
