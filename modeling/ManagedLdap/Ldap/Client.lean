/-
# ManagedLdap.Ldap.Client -- sending requests and reading searches

The part of the backend that speaks to servers.  `dial` makes a connection, `exchange`
sends a request and waits for its response, as long as the caller has patience, `post` sends
one that has none, and a `SearchStream` is a search whose messages have arrived but not all
been read.  A paged search reads on across pages: whenever the library finds that a page ends
with a cookie, the same request goes out again with it.  Everything that fails here fails as a
`ClientError`, which the caller turns into its own kind of error.

An answer that comes too late has been given all the same: the request was carried out, and
only the caller does not learn of it.
-/
import ManagedLdap.World

namespace ManagedLdap.Client

set_option autoImplicit false

variable {κ σ : Type}

/-! ## Single requests -/

/-- Send a request and wait for its response. -/
def exchange (link : LinkId) (patience : Option Nat) (controls : List Control)
    (request : Request) : Act κ σ (Except ClientError ServerReply) := do
  let n ← Act.network
  if n.isOpen link then
    Act.updateWorld fun w => w.exchange link ⟨request, controls⟩ ServerReply.closes
    return (n.nextReply link).heard patience
  else return .error .sendOnClosed

/-- Send a request that has no response. -/
def post (link : LinkId) (request : Request) : Act κ σ (Except ClientError Unit) := do
  let n ← Act.network
  if n.isOpen link then
    Act.updateNetwork fun n => n.send link ⟨request, []⟩
    return .ok ()
  else return .error .sendOnClosed

/-! ## Connecting -/

/-- The extended operation that asks for encryption. -/
def startTlsOid : String := "1.3.6.1.4.1.1466.20037"

/-- Ask for encryption on a new connection, which is given up when it is refused. -/
def negotiate (link : LinkId) (patience : Option Nat) : Act κ σ (Except ClientError LinkId) := do
  match ← exchange link patience [] (.extended startTlsOid none) with
  | .error e =>
      Act.updateNetwork fun n => n.letGo link
      return .error e
  | .ok reply =>
      if reply.result.code = 0 then return .ok link
      else
        Act.updateNetwork fun n => n.letGo link
        return .error (.result reply.response)

/-- Why a local socket cannot be reached: no server listens on one here. -/
def localSocketError (n : Network) (host : Option String) : ClientError :=
  match host with
  | none => .emptyUnixPath
  | some path =>
      if path.toList.contains ':' then .portInUnixPath
      else .io (n.socketFault (Text.percentDecodeForgiving path))

/-- Why an address cannot be connected to where no server listens. -/
def refusalOf (n : Network) (address : String) : ClientError :=
  if n.silent.contains address then .timeout else .io n.refusal

/-- The port of a scheme that connects to a host. -/
def defaultPort? (scheme : String) : Option Nat :=
  if scheme = "ldap" then some 389
  else if scheme = "ldaps" then some 636
  else none

/-- Connect to the server of an address, with the settings that were made for it.  An address
without a host cannot be connected to at all. -/
def dial (url : String) (settings : ConnSettings) : Act κ σ (Except ClientError LinkId) := do
  match Url.parse url with
  | .error fault => return .error (.urlParsing fault.message)
  | .ok u =>
      if u.scheme = "ldapi" then
        let n ← Act.network
        return .error (localSocketError n u.host)
      else
        match defaultPort? u.scheme, u.host with
        | none, _ => return .error (.unknownScheme u.scheme)
        | some _, none => Act.failWith .panic
        | some port, some host =>
            let n ← Act.network
            let address := host ++ ":" ++ toString (u.port.getD port)
            match n.accept address with
            | none => return .error (refusalOf n address)
            | some (link, n) =>
                Act.updateNetwork fun _ => n
                if settings.startTls && u.scheme == "ldap" then
                  negotiate link (some settings.timeoutSecs)
                else return .ok link

/-! ## Searches -/

/-- How the messages of a page end. -/
inductive PageEnd where
  | result (r : LdapResult)
  /-- There was no result: the connection closed before it, or it came too late. -/
  | broken (e : ClientError)
  deriving DecidableEq

/-- How the messages of a page end that are answered like this. -/
def pageEnd (reply : ServerReply) (patience : Option Nat) : PageEnd :=
  if reply.isLate patience then .broken .timeout
  else if reply.drop || reply.cut then .broken .endOfStream
  else .result reply.response

/-- A search, and how it is carried out. -/
structure Search where
  link : LinkId
  request : SearchRequest
  /-- The controls of the request apart from paging. -/
  controls : List Control
  pageSize : Option Int
  /-- How many seconds each result may take. -/
  patience : Option Nat
  /-- What reads the messages. -/
  library : Library
  /-- The place of the first request on the connection. -/
  first : Nat

/-- A search with the messages of its current page that have not been read. -/
structure SearchStream extends Search where
  messages : List SearchMessage
  ending : PageEnd
  /-- The place of the latest request on the connection. -/
  latest : Nat

/-- The controls of a page: paging comes after the others. -/
def pageControls (controls : List Control) (pageSize : Option Int) (cookie : Octets) :
    List Control :=
  match pageSize with
  | none => controls
  | some size =>
      controls ++ [⟨Control.pagedResults, false, some (Ber.pagedValue size cookie)⟩]

/-- The request for the page at a cookie. -/
def Search.page (s : Search) (cookie : Octets) : SentRequest :=
  ⟨.search s.request, pageControls s.controls s.pageSize cookie⟩

/-- What a result says of the pages after its own; a search without pages has no other. -/
def Search.mark (s : Search) (r : LdapResult) : PageMark :=
  if s.pageSize.isSome then s.library.pageMark r else .last

/-- Ask for a page. -/
def requestPage (s : Search) (cookie : Octets) : Act κ σ (Except ClientError SearchStream) := do
  let n ← Act.network
  if n.isOpen s.link then
    let reply := n.nextReply s.link
    Act.updateWorld fun w => w.exchange s.link (s.page cookie) ServerReply.closesSearch
    return .ok {
      toSearch := s
      messages := if reply.drop then [] else reply.messages
      ending := pageEnd reply s.patience
      latest := s.library.latest s.first (n.sentCount s.link) }
  else return .error .sendOnClosed

/-- A search as the caller states it, its filter still a text. -/
structure SearchSpec where
  base : String
  scope : SearchScope
  sizeLimit : Int := 0
  timeLimit : Int := 0
  typesOnly : Bool := false
  filter : String
  attributes : List String

/-- A search as it is sent, once its filter was read. -/
def SearchSpec.toRequest (spec : SearchSpec) (tree : Filter.Tree) : SearchRequest :=
  { base := spec.base
    scope := spec.scope
    sizeLimit := spec.sizeLimit
    timeLimit := spec.timeLimit
    typesOnly := spec.typesOnly
    filter := tree
    attributes := spec.attributes }

/-- Start a search.  A paging control among the others is refused before the filter is
read, and a filter that is none before anything is sent. -/
def startSearch (link : LinkId) (patience : Option Nat) (controls : List Control)
    (pageSize : Option Int) (spec : SearchSpec) : Act κ σ (Except ClientError SearchStream) := do
  if pageSize.isSome && controls.any fun c => c.oid == Control.pagedResults then
    return .error (.adapterInit "found Paged Results control in op set")
  else
    match Filter.parse? spec.filter with
    | none => return .error .filterParsing
    | some tree => do
        let n ← Act.network
        requestPage
          { link := link
            request := spec.toRequest tree
            controls := controls
            pageSize := pageSize
            patience := patience
            library := n.reader link
            first := n.sentCount link } []

/-- The next page of a stream whose page ended with a cookie. -/
def nextPage (stream : SearchStream) (cookie : Octets) :
    Act κ σ (Except ClientError SearchStream) :=
  requestPage stream.toSearch cookie

/-- A search that is read at once: the messages and the result that the library hands out. -/
def searchAll (link : LinkId) (patience : Option Nat) (controls : List Control)
    (spec : SearchSpec) : Act κ σ (Except ClientError (List SearchMessage × LdapResult)) := do
  match ← startSearch link patience controls none spec with
  | .error e => return .error e
  | .ok stream =>
      match stream.ending with
      | .broken e => return .error e
      | .result r => return .ok (stream.library.collect stream.messages r)

/-! ## Into directory errors -/

/-- The value of a client call, or its failure as a directory error. -/
def orFail {α : Type} (x : Act κ σ (Except ClientError α)) : Act κ σ α := do
  match ← x with
  | .ok a => return a
  | .error e => Act.fail (.ofClient e)

end ManagedLdap.Client
