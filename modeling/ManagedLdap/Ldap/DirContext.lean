/-
# ManagedLdap.Ldap.DirContext -- a directory context over a connection

An `LdapDirContext` holds a share of a connection and a place in the namespace: every
name is resolved against its base before it is sent.  Contexts looked up or created from
it share the connection and take over its identity, properties and controls; from then on
each goes its own way.  An operation that fails changes nothing of its context but the
controls of the last response.  Once closed, a context has no connection, and whatever
needs one fails.
-/
import ManagedLdap.Ldap.Schema
import ManagedLdap.Ldap.SearchCursor

namespace ManagedLdap

set_option autoImplicit false

/-- A directory context over a connection. -/
structure LdapDirContext where
  /-- The connection; none once the context is closed. -/
  connection : Option LinkId
  url : String
  /-- The name that names are relative to. -/
  base : String
  config : LdapConfig
  credentials : Credentials
  environment : Environment
  /-- The controls of the bind of the next reconnect of a referred context. -/
  connectControls : List Control
  /-- The controls of every request. -/
  requestControls : List Control
  /-- The controls of the last response. -/
  responseControls : List Control

namespace LdapDirContext

variable {κ σ : Type}

/-! ## Opening -/

/-- The properties of a context that was opened. -/
def openedEnvironment (url : String) (credentials : Credentials) (env : Environment) :
    Environment :=
  let env := env.insert Property.providerUrl url
  if credentials.bindDn.isEmpty then env
  else env.insert Property.securityPrincipal credentials.bindDn

/-- Open a context at a place of a server. -/
def openAt (url base : String) (config : LdapConfig) (credentials : Credentials)
    (env : Environment) (connectControls : List Control) : Act κ σ LdapDirContext := do
  let link ← Connection.open url config credentials connectControls
  return {
    connection := some link
    url := url
    base := base
    config := config
    credentials := credentials
    environment := openedEnvironment url credentials env
    connectControls := connectControls
    requestControls := []
    responseControls := [] }

/-- Open a context at the base of a configuration.  The address in the properties counts
more than the configured one. -/
def connect (config : LdapConfig) (credentials : Credentials) (env : Environment) :
    Act κ σ LdapDirContext :=
  openAt ((env.get? Property.providerUrl).getD config.url) config.baseDn config credentials env []

/-! ## Views -/

/-- How referrals are surfaced at this moment. -/
def referralMode (c : LdapDirContext) : ReferralMode :=
  match c.environment.get? Property.referral with
  | some value => .ofProperty value
  | none => c.config.referral

/-- The full name of a relative one. -/
def resolve (c : LdapDirContext) (name : String) : String := Name.compose name c.base

/-- What the context hands to the referrals it receives. -/
def origin (c : LdapDirContext) : ReferralOrigin :=
  { config := c.config
    credentials := c.credentials
    environment := c.environment
    connectControls := c.connectControls
    mode := c.referralMode }

/-- The page size of a search: its own, else that of the properties, else the configured
one. -/
def pageSize (c : LdapDirContext) (controls : SearchControls) : Int :=
  match controls.pageSize with
  | some size => size
  | none =>
      match (c.environment.get? Property.pageSize).bind fun v => Text.signed32? v.toList with
      | some size => size
      | none => c.config.pageSize

def shown (c : LdapDirContext) : Shown :=
  .record "LdapDirContext"
    [("url", .text c.url), ("base", .text c.base), ("bind_dn", .text c.credentials.bindDn),
      ("connected", .bool c.connection.isSome)] true

/-! ## Requests -/

/-- How many seconds the context waits for an answer. -/
def patience (c : LdapDirContext) : Option Nat := c.config.connection.readTimeout?

/-- The connection; a closed context has none. -/
def linkOf (c : LdapDirContext) : Act κ σ LinkId :=
  match c.connection with
  | some link => return link
  | none => Act.fail .closed

/-- What a result says about the entry `dn`. -/
def verdict (c : LdapDirContext) (result : LdapResult) (dn : String) : Except DirError Unit :=
  if result.code = 0 then .ok ()
  else if result.code = 10 then .error (c.origin.error result.refs dn)
  else .error (.ofResult result dn)

/-- Keep the controls of a response and judge its result. -/
def check (result : LdapResult) (dn : String) : Act κ LdapDirContext (Except DirError Unit) := do
  Act.update fun c => { c with responseControls := result.controls }
  let c ← Act.self
  return c.verdict result dn

/-- Fail with the error of a verdict. -/
def demand {α : Type} (verdict : Except DirError α) : Act κ σ α :=
  match verdict with
  | .ok a => return a
  | .error e => Act.fail e

/-- Send a request about the entry `dn`, with the controls of the context, and judge the
answer. -/
def request (dn : String) (r : Request) :
    Act κ LdapDirContext (ServerReply × Except DirError Unit) := do
  let c ← Act.self
  let link ← c.linkOf
  let reply ← Client.orFail (Client.exchange link c.patience c.requestControls r)
  let verdict ← check reply.response dn
  return (reply, verdict)

/-- Send a request about the entry `dn` that has to succeed. -/
def send (dn : String) (r : Request) : Act κ LdapDirContext Unit := do
  let (_, verdict) ← request dn r
  demand verdict

/-- Read one entry. -/
def readEntry (dn : String) (names : List String) : Act κ LdapDirContext SearchEntry := do
  let c ← Act.self
  let link ← c.linkOf
  let spec : Client.SearchSpec :=
    { base := dn, scope := .object, filter := Filter.matchAll, attributes := names }
  let (messages, result) ← Client.orFail
    (Client.searchAll link c.patience c.requestControls spec)
  let verdict ← check result dn
  demand verdict
  match Client.entries messages with
  | e :: _ =>
      let n ← Act.network
      return (n.reader link).construct e
  | [] => Act.fail (.nameNotFound dn)

/-- Remove an entry; one that is not there counts as removed. -/
def deleteEntry (dn : String) : Act κ LdapDirContext Unit := do
  let (_, verdict) ← request dn (.delete dn)
  match verdict with
  | .error (.nameNotFound _) => return ()
  | verdict => demand verdict

/-- The distinct values of a list, in order. -/
def valueSet (values : List String) : List String :=
  values.foldl (fun set v => ((OrderedMap.put v () (set.map fun s => (s, ()))).map Prod.fst)) []

/-- The attributes of an entry as they are sent: those without values are left out. -/
def sentAttributes (attrs : Attributes) : List (String × List String) :=
  (attrs.toList.filter fun e => !e.2.isEmpty).map fun e => (e.1, valueSet e.2)

/-- A modification as it is sent. -/
def change (m : Modification) : Change := ⟨m.op, m.name, valueSet m.values⟩

/-- A context over the same connection. -/
def child (base : String) (requestControls : List Control) :
    Act κ LdapDirContext LdapDirContext := do
  let c ← Act.self
  match c.connection with
  | some link => Connection.hold link
  | none => pure ()
  return { c with base := base, requestControls := requestControls, responseControls := [] }

/-! ## Operations on entries -/

def bind (name : String) (attrs : Attributes) : Act κ LdapDirContext Unit := do
  let c ← Act.self
  send (c.resolve name) (.add (c.resolve name) (sentAttributes attrs))

def unbind (name : String) : Act κ LdapDirContext Unit := do
  let c ← Act.self
  deleteEntry (c.resolve name)

def rebind (name : String) (attrs : Attributes) : Act κ LdapDirContext Unit := do
  unbind name
  bind name attrs

/-- The request that moves an entry: the new parent is named only where it differs. -/
def renameRequest (oldDn newDn : String) : Request :=
  let (newRdn, newParent) := Name.splitRdn newDn
  let (_, oldParent) := Name.splitRdn oldDn
  .modifyDn oldDn newRdn true (if Text.sameFold newParent oldParent then none else some newParent)

def rename (name newName : String) : Act κ LdapDirContext Unit := do
  let c ← Act.self
  send (c.resolve name) (renameRequest (c.resolve name) (c.resolve newName))

def lookup (name : String) : Act κ LdapDirContext LdapDirContext := do
  let c ← Act.self
  let dn := c.resolve name
  let _ ← readEntry dn ["1.1"]
  let c ← Act.self
  child dn c.requestControls

def getAttributes (name : String) (ids : Option (List String)) :
    Act κ LdapDirContext Attributes := do
  let c ← Act.self
  let entry ← readEntry (c.resolve name) (ids.getD ["*"])
  return entry.attributes

def modify (name : String) (mods : List Modification) : Act κ LdapDirContext Unit := do
  if mods.isEmpty then return ()
  else
    let c ← Act.self
    let _ ← c.linkOf
    let changes := mods.map change
    if changes.any fun m => m.op == .add && m.values.isEmpty then
      Act.fail (.ofClient .addNoValues)
    else send (c.resolve name) (.modify (c.resolve name) changes)

def createSubcontext (name : String) (attrs : Attributes) :
    Act κ LdapDirContext LdapDirContext := do
  bind name attrs
  let c ← Act.self
  child (c.resolve name) c.requestControls

/-! ## Schema -/

/-- The attribute that names the schema of an entry. -/
def subschema : String := "subschemaSubentry"

/-- Where the schema of an entry is: as the entry says, else as the root says, else at the
usual place. -/
def schemaDn (dn : String) : Act κ LdapDirContext String := do
  let entry ← readEntry dn [subschema]
  match entry.attributes.first? subschema with
  | some schema => return schema
  | none =>
      let root ← readEntry "" [subschema]
      return (root.attributes.first? subschema).getD Schema.defaultDn

def getSchema (name : String) : Act κ LdapDirContext LdapDirContext := do
  let c ← Act.self
  let schema ← schemaDn (c.resolve name)
  let c ← Act.self
  child schema c.requestControls

def getSchemaClassDefinition (name : String) : Act κ LdapDirContext (List String) := do
  let c ← Act.self
  let dn := c.resolve name
  let entry ← readEntry dn ["objectClass"]
  let classes := (entry.attributes.get? "objectClass").getD []
  let schema ← schemaDn dn
  let definitions ← readEntry schema ["objectClasses"]
  return Schema.declaring classes ((definitions.attributes.get? "objectClasses").getD [])

/-! ## Searches -/

/-- A limit in whole seconds, rounded up; the sum stays within 32 bits. -/
def timeLimitSecs (ms : Int) : Int :=
  if ms ≤ 0 then 0 else min (ms + 999) 2147483647 / 1000

/-- The attributes a search asks for: `*` for all of them, `1.1` for none. -/
def requestedAttributes (controls : SearchControls) : List String :=
  match controls.returnAttributes with
  | none => ["*"]
  | some [] => ["1.1"]
  | some names => names

/-- The search of these controls below `dn`. -/
def searchSpec (dn filter : String) (controls : SearchControls) : Client.SearchSpec :=
  { base := dn
    scope := controls.scope
    sizeLimit := max controls.countLimit 0
    timeLimit := timeLimitSecs controls.timeLimitMs
    typesOnly := controls.typesOnly
    filter := filter
    attributes := requestedAttributes controls }

/-- Start a search; the cursor holds a share of the connection. -/
def search (name filter : String) (controls : SearchControls) :
    Act κ LdapDirContext SearchCursor := do
  let c ← Act.self
  let dn := c.resolve name
  let link ← c.linkOf
  let size := c.pageSize controls
  let paging := if size > 0 then some size else none
  let stream ← Client.orFail
    (Client.startSearch link c.patience c.requestControls paging (searchSpec dn filter controls))
  Connection.hold link
  return .new link stream dn c.origin

/-- A child of a listing. -/
def nameClassPair (r : SearchResult) : NameClassPair :=
  ⟨r.name, ((r.attributes.get? "objectClass").getD []).getLast?⟩

def list (name : String) : Act κ LdapDirContext (List NameClassPair) := do
  let controls := (SearchControls.ofScope .oneLevel).withReturnAttributes ["objectClass"]
  let cursor ← search name Filter.matchAll controls
  let (outcome, cursor) ← Act.on (Cursor.bare cursor) Cursor.collect
  Act.updateWorld cursor.discard
  match outcome with
  | .ok (results, none) => return results.map nameClassPair
  | .ok (_, some failure) => Act.failWith failure
  | .error failure => Act.failWith failure

/-! ## Properties and controls -/

def addToEnvironment (property value : String) : Act κ LdapDirContext (Option String) := do
  let c ← Act.self
  Act.update fun c => { c with environment := c.environment.insert property value }
  return c.environment.get? property

def removeFromEnvironment (property : String) : Act κ LdapDirContext (Option String) := do
  let c ← Act.self
  Act.update fun c => { c with environment := c.environment.erase property }
  return c.environment.get? property

def extendedOperation (r : ExtendedRequest) : Act κ LdapDirContext ExtendedResponse := do
  let c ← Act.self
  let (reply, verdict) ← request c.base (.extended r.oid r.value)
  demand verdict
  return ⟨reply.extendedName, reply.extendedValue⟩

def newInstance (controls : List Control) : Act κ LdapDirContext LdapDirContext := do
  let c ← Act.self
  let _ ← c.linkOf
  child c.base controls

/-- Open a new connection in place of the present one, which is released.  A failure
keeps the present one. -/
def reconnect (controls : List Control) : Act κ LdapDirContext Unit := do
  let c ← Act.self
  let link ← Connection.open c.url c.config c.credentials controls
  Act.update fun c => { c with connectControls := controls, connection := some link }
  match c.connection with
  | some previous => Connection.release previous c.url
  | none => return ()

def setRequestControls (controls : List Control) : Act κ LdapDirContext Unit :=
  Act.update fun c => { c with requestControls := controls }

/-! ## Closing -/

def close : Act κ LdapDirContext Unit := do
  let c ← Act.self
  Act.update fun c => { c with connection := none }
  match c.connection with
  | some link => Connection.release link c.url
  | none => return ()

/-- A context that nobody holds gives up its share of the connection. -/
def discard (c : LdapDirContext) (w : World κ) : World κ :=
  match c.connection with
  | some link => Connection.letGo link w
  | none => w

end LdapDirContext

end ManagedLdap
