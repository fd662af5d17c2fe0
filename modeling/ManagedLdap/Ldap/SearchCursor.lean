/-
# ManagedLdap.Ldap.SearchCursor -- the entries of a search, one at a time

A search cursor reads its stream as far as the next entry and no further.  Continuation
references that are passed on the way are kept when the context surfaces referrals, and
become an error after the last entry.  Once the end or a failure was seen the stream is
gone, and every later pull finds nothing; closing earlier gives the search up.
-/
import ManagedLdap.Cursor
import ManagedLdap.Ldap.Connection

namespace ManagedLdap

set_option autoImplicit false

namespace ReferralOrigin

/-- What a referral to these addresses becomes for the name `target`: an error that can
be followed, if referrals are surfaced and there is an address, and a partial result
otherwise. -/
def error (o : ReferralOrigin) (urls : List String) (target : String) : DirError :=
  if o.mode = .throw ∧ urls ≠ [] then
    .referral (.ldap { urls := urls, index := 0, target := target, origin := o })
  else .partialResult ("referral for " ++ target ++ " not followed")

end ReferralOrigin

/-- A cursor over the entries of a search. -/
structure SearchCursor where
  /-- The connection, which the cursor holds a share of. -/
  link : LinkId
  /-- The stream; gone once its end or a failure was seen, or the cursor was closed. -/
  stream : Option Client.SearchStream
  /-- The searched name, which results are relative to. -/
  base : String
  origin : ReferralOrigin
  /-- An entry that was asked about and not taken. -/
  peeked : Option SearchResult
  /-- The addresses of the continuation references passed so far. -/
  references : List String

namespace SearchCursor

variable {κ : Type}

/-- A cursor over a stream that was just opened. -/
def new (link : LinkId) (stream : Client.SearchStream) (base : String) (origin : ReferralOrigin) :
    SearchCursor :=
  { link := link
    stream := some stream
    base := base
    origin := origin
    peeked := none
    references := [] }

/-- Read messages as far as the first entry: the addresses of the references passed, and
the entry with what follows it. -/
def takeEntry : List SearchMessage → List String × Option (RawEntry × List SearchMessage)
  | [] => ([], none)
  | .entry e :: rest => ([], some (e, rest))
  | .reference urls :: rest =>
      let (more, found) := takeEntry rest
      (urls ++ more, found)
  | .intermediate _ :: rest => takeEntry rest

/-- Keep the addresses of references, if referrals are surfaced. -/
def keepReferences (urls : List String) (c : SearchCursor) : SearchCursor :=
  if c.origin.mode = .throw then { c with references := c.references ++ urls } else c

/-- What the result of a search says at its end. -/
def verdict (c : SearchCursor) (result : LdapResult) : Option DirError :=
  if result.code = 0 then
    if c.references.isEmpty then none else some (c.origin.error c.references c.base)
  else if result.code = 10 then some (c.origin.error result.refs c.base)
  else some (.ofResult result c.base)

/-- End the stream with a result. -/
def finish (result : LdapResult) : Act κ SearchCursor (Option SearchResult) := do
  let c ← Act.self
  Act.update fun c =>
    { c with stream := none, references := if result.code = 0 then [] else c.references }
  match c.verdict result with
  | none => return none
  | some e => Act.fail e

/-- End the stream with a failure. -/
def breakOff (e : ClientError) : Act κ SearchCursor (Option SearchResult) := do
  Act.update fun c => { c with stream := none }
  Act.fail (.ofClient e)

/-- Read the current page as far as the next entry.  A page that ends with a cookie is
followed by the next one, which `onward` reads. -/
def fetchPage (onward : Act κ SearchCursor (Option SearchResult)) :
    Act κ SearchCursor (Option SearchResult) := do
  let c ← Act.self
  match c.stream with
  | none => return none
  | some stream =>
      let (urls, found) := takeEntry stream.messages
      Act.update (keepReferences urls)
      match found with
      | some (e, rest) =>
          Act.update fun c => { c with stream := some { stream with messages := rest } }
          return some ((stream.library.construct e).result c.base)
      | none =>
          match stream.ending with
          | .broken e => breakOff e
          | .result r =>
              match stream.mark r with
              | .last => finish r
              | .unreadable => Act.failWith .panic
              | .more cookie =>
                  match ← Client.nextPage stream cookie with
                  | .error e => breakOff e
                  | .ok next =>
                      Act.update fun c => { c with stream := some next }
                      onward

/-- Read as far as the next entry, over at most `pages` pages after the next one. -/
def fetchWithin : Nat → Act κ SearchCursor (Option SearchResult)
  | 0 => fetchPage (finish {})
  | pages + 1 => fetchPage (fetchWithin pages)

/-- Read the stream as far as the next entry.  Every further page takes one of the replies
the server has left, so their number bounds the pages: once there is none left, the page
that is asked for is empty and has no cookie. -/
def fetch : Act κ SearchCursor (Option SearchResult) := do
  let c ← Act.self
  let n ← Act.network
  fetchWithin (n.repliesLeft c.link)

def hasMore : Act κ SearchCursor Bool := do
  let c ← Act.self
  match c.peeked with
  | some _ => return true
  | none =>
      let found ← fetch
      Act.update fun c => { c with peeked := found }
      return found.isSome

def next : Act κ SearchCursor (Option SearchResult) := do
  let c ← Act.self
  match c.peeked with
  | some found =>
      Act.update fun c => { c with peeked := none }
      return some found
  | none => fetch

/-- Give the search up, if it still runs. -/
def close : Act κ SearchCursor Unit := do
  let c ← Act.self
  Act.update fun c => { c with peeked := none, stream := none }
  match c.stream with
  | none => return ()
  | some stream =>
      match ← Client.post c.link (.abandon stream.latest) with
      | .ok _ => return ()
      | .error e => Act.warn (.abandonFailed c.base e)

/-- A cursor that nobody holds gives up its share of the connection. -/
def discard (c : SearchCursor) (w : World κ) : World κ := Connection.letGo c.link w

/-- The messages that have arrived, and those the server may still send. -/
def remaining (c : SearchCursor) (w : World κ) : Nat :=
  (match c.stream with
    | some stream => stream.messages.length
    | none => 0) + w.network.backlog c.link + 1

instance : Source SearchCursor SearchResult where
  hasMore := hasMore
  next := next
  close := close
  discard := discard
  remaining := remaining

end SearchCursor

end ManagedLdap
