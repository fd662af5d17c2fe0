/-
# ManagedLdap.Ldap.Message -- requests, replies and entries

The messages between a directory server and its client, as far as they can be told
apart by either side.  The values of an entry arrive as octets; the client hands out an
attribute as text when all its values are UTF-8 and as octets otherwise.
-/
import ManagedLdap.Ber
import ManagedLdap.Error
import ManagedLdap.Filter.Grammar
import ManagedLdap.Name
import ManagedLdap.Search
import ManagedLdap.Text.Base64

namespace ManagedLdap

set_option autoImplicit false

/-! ## Requests -/

/-- A search as it is sent. -/
structure SearchRequest where
  base : String
  scope : SearchScope
  sizeLimit : Int
  /-- The limit in seconds. -/
  timeLimit : Int
  typesOnly : Bool
  filter : Filter.Tree
  attributes : List String

/-- One change of a modify request. -/
structure Change where
  op : ModOp
  name : String
  values : List String
  deriving DecidableEq, Repr

/-- A request to a directory server. -/
inductive Request where
  | bind (dn password : String)
  | unbind
  | search (request : SearchRequest)
  | add (dn : String) (attributes : List (String × List String))
  | modify (dn : String) (changes : List Change)
  | delete (dn : String)
  | modifyDn (dn rdn : String) (deleteOld : Bool) (newSuperior : Option String)
  | extended (oid : String) (value : Option Octets)
  /-- Give up the request at that place of the connection. -/
  | abandon (target : Nat)

/-- A request with the controls it was sent with. -/
structure SentRequest where
  request : Request
  controls : List Control

/-! ## Replies -/

/-- An entry as it arrives. -/
structure RawEntry where
  dn : String
  attributes : List (String × List Octets)
  deriving DecidableEq, Repr

/-- A message of a search before its result. -/
inductive SearchMessage where
  | entry (e : RawEntry)
  /-- Where the search goes on elsewhere. -/
  | reference (urls : List String)
  | intermediate (text : String)
  deriving DecidableEq, Repr

/-- How a server answers a request. -/
structure ServerReply where
  result : LdapResult := {}
  /-- The cookie of a paged results control in the response. -/
  cookie : Option Octets := none
  extendedName : Option String := none
  extendedValue : Option Octets := none
  messages : List SearchMessage := []
  /-- Close the connection instead of answering. -/
  drop : Bool := false
  /-- Close the connection after the messages of a search. -/
  cut : Bool := false
  /-- Close the connection after the answer. -/
  hangUp : Bool := false
  /-- How many seconds the result takes; the messages of a search come before it. -/
  delay : Nat := 0
  /-- What the transport fails with when the connection closes; none if it closes in order. -/
  fault : Option String := none

namespace ServerReply

/-- The result as it arrives: a cookie comes in a control after the others. -/
def response (r : ServerReply) : LdapResult :=
  match r.cookie with
  | none => r.result
  | some cookie =>
      { r.result with
        controls := r.result.controls ++
          [⟨Control.pagedResults, false, some (Ber.pagedValue 0 cookie)⟩] }

/-- Whether the result comes after a caller has lost patience, who waits that many seconds or
for ever. -/
def isLate (r : ServerReply) (patience : Option Nat) : Bool :=
  patience.any fun limit => limit < r.delay

/-- Whether the connection closes with the answer to a single request. -/
def closes (r : ServerReply) : Bool := r.drop || r.hangUp

/-- Whether the connection closes with the answer to a search. -/
def closesSearch (r : ServerReply) : Bool := r.drop || r.cut || r.hangUp

/-- What a caller hears of the answer to a single request. -/
def heard (r : ServerReply) (patience : Option Nat) : Except ClientError ServerReply :=
  if r.isLate patience then .error .timeout
  else if r.drop then .error .receiveOnClosed
  else .ok r

end ServerReply

/-! ## Entries -/

/-- An entry as the client hands it out: attributes of text and attributes of octets. -/
structure SearchEntry where
  dn : String
  texts : List (String × List String)
  binaries : List (String × List Octets)
  deriving DecidableEq, Repr

namespace SearchEntry

/-- Keep the last of the attributes with one name, where the first stood. -/
def lastWins : List (String × List String) → List (String × List String)
  | [] => []
  | (name, values) :: rest =>
      let later := rest.filter fun e => e.1 == name
      let kept := (later.getLast?.map Prod.snd).getD values
      (name, kept) :: (lastWins rest).filter fun e => e.1 != name

/-- Put the values of the attributes with one name together, where the first stood. -/
def gather : List (String × List Octets) → List (String × List Octets)
  | [] => []
  | (name, values) :: rest =>
      let later := rest.filter fun e => e.1 == name
      (name, values ++ later.flatMap Prod.snd) :: (gather rest).filter fun e => e.1 != name

/-- The values of an attribute whose values are not all text: those that are none come
first. -/
def binaryOrder (values : List Octets) : List Octets :=
  values.filter (fun v => (Text.decodeUtf8? v).isNone) ++
    values.filter fun v => (Text.decodeUtf8? v).isSome

/-- The entry of a message.  A name may occur as text and as octets. -/
def ofRaw (e : RawEntry) : SearchEntry :=
  { dn := e.dn
    texts := lastWins (e.attributes.filterMap fun a =>
      (a.2.mapM Text.decodeUtf8?).map fun values => (a.1, values))
    binaries := gather (e.attributes.filterMap fun a =>
      match a.2.mapM Text.decodeUtf8? with
      | some _ => none
      | none => some (a.1, binaryOrder a.2)) }

/-- The names of its attributes. -/
def names (e : SearchEntry) : List String := e.texts.map Prod.fst ++ e.binaries.map Prod.fst

theorem lastWins_names (entries : List (String × List String)) :
    ∀ name ∈ (lastWins entries).map Prod.fst, name ∈ entries.map Prod.fst := by
  induction entries with
  | nil => exact List.forall_mem_nil _
  | cons e rest ih =>
      intro name among
      rcases List.mem_cons.1 among with rfl | later
      · exact List.mem_cons_self
      · obtain ⟨d, kept, rfl⟩ := List.mem_map.1 later
        exact List.mem_cons_of_mem _ (ih _ (List.mem_map_of_mem (List.mem_filter.1 kept).1))

theorem gather_names (entries : List (String × List Octets)) :
    ∀ name ∈ (gather entries).map Prod.fst, name ∈ entries.map Prod.fst := by
  induction entries with
  | nil => exact List.forall_mem_nil _
  | cons e rest ih =>
      intro name among
      rcases List.mem_cons.1 among with rfl | later
      · exact List.mem_cons_self
      · obtain ⟨d, kept, rfl⟩ := List.mem_map.1 later
        exact List.mem_cons_of_mem _ (ih _ (List.mem_map_of_mem (List.mem_filter.1 kept).1))

/-- No attribute is made up. -/
theorem names_ofRaw (raw : RawEntry) :
    ∀ name ∈ (ofRaw raw).names, name ∈ raw.attributes.map Prod.fst := by
  intro name among
  rcases List.mem_append.1 among with text | octets
  · obtain ⟨e, made, rfl⟩ := List.mem_map.1 (lastWins_names _ _ text)
    obtain ⟨a, sent, read⟩ := List.mem_filterMap.1 made
    obtain ⟨values, -, rfl⟩ := Option.map_eq_some_iff.1 read
    exact List.mem_map_of_mem sent
  · obtain ⟨e, made, rfl⟩ := List.mem_map.1 (gather_names _ _ octets)
    obtain ⟨a, sent, read⟩ := List.mem_filterMap.1 made
    cases decoded : a.2.mapM Text.decodeUtf8? with
    | some values => simp [decoded] at read
    | none =>
        simp only [decoded, Option.some.injEq] at read
        exact List.mem_map.2 ⟨a, sent, by rw [← read]⟩

/-- The attributes of an entry; octets are written in Base64. -/
def attributes (e : SearchEntry) : Attributes :=
  e.binaries.foldl (fun attrs b => attrs.put b.1 (b.2.map Text.base64))
    (Attributes.ofList e.texts)

/-- The search result of an entry found below `base`. -/
def result (e : SearchEntry) (base : String) : SearchResult :=
  { name := Name.relativeTo e.dn base, fullName := e.dn, attributes := e.attributes }

end SearchEntry

end ManagedLdap
