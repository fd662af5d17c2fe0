/-
# ManagedLdap.Ldap.Connection -- opening and releasing a shared connection

A connection is opened for one holder and may be shared by more.  Opening makes settings for
it, which the socket factory in effect configures, connects with them, asking for encryption
where the configuration wants it, and binds.  Whoever releases the last share ends the connection
with an unbind request; any other release, and letting go of a share, sends nothing.
-/
import ManagedLdap.Ldap.Client

namespace ManagedLdap.Connection

set_option autoImplicit false

variable {κ σ : Type}

/-- Whether opening asks for encryption: the configuration wants it, and the address is
spelt as a plain one. -/
def wantsStartTls (config : LdapConfig) (url : String) : Bool :=
  config.useStartTls && "ldap://".toList.isPrefixOf url.toList

/-- The settings for an address, before a socket factory configures them. -/
def settings (config : LdapConfig) (url : String) : ConnSettings :=
  { timeoutSecs := config.connection.connectionTimeoutSecs, startTls := wantsStartTls config url }

/-- Have the settings configured by the factory in effect, if there is one.  A factory with a
label leaves a record. -/
def configure (factory : Option SocketFactory) (settings : ConnSettings) :
    Act κ σ ConnSettings := do
  match factory with
  | some (.named label) => Act.record (.configured label)
  | some (.plain label) => Act.record (.configured label)
  | _ => pure ()
  return SocketFactory.configured factory settings

/-- Bind on a new connection, however long the answer takes. -/
def bind (link : LinkId) (credentials : Credentials) (controls : List Control) :
    Act κ σ (Except DirError Unit) := do
  match ← Client.exchange link none controls
      (.bind credentials.bindDn credentials.password) with
  | .error e => return .error (.ofClient e)
  | .ok reply =>
      if reply.result.code = 49 then return .error .authenticationFailed
      else if reply.result.code = 0 then return .ok ()
      else
        return .error (.communication
          ("LDAP bind failed with code " ++ toString reply.result.code ++ ": " ++
            reply.result.text) none)

/-- Connect to an address and bind; without an identity there is no bind. -/
def «open» (url : String) (config : LdapConfig) (credentials : Credentials)
    (connectControls : List Control) : Act κ σ LinkId := do
  let w ← Act.world
  let settings ← configure w.slot (settings config url)
  Act.updateNetwork fun n => n.recordDial ⟨url, w.slot, settings⟩
  match ← Client.dial url settings with
  | .error e =>
      Act.fail (.communication
        ("Failed to connect to LDAP server at " ++ url ++ ": " ++ e.text) none)
  | .ok link =>
      if credentials.bindDn.isEmpty then return link
      else
        match ← bind link credentials connectControls with
        | .ok _ => return link
        | .error e =>
            Act.updateNetwork fun n => n.letGo link
            Act.fail e

/-- One more holder. -/
def hold (link : LinkId) : Act κ σ Unit := Act.updateNetwork fun n => n.hold link

/-- One holder less, without a word to the server. -/
def letGo (link : LinkId) (w : World κ) : World κ :=
  { w with network := w.network.letGo link }

/-- Give up a share of the connection to `url`; with the last one it is unbound. -/
def release (link : LinkId) (url : String) : Act κ σ Unit := do
  let n ← Act.network
  if n.shares link = 1 then
    match ← Client.post link .unbind with
    | .ok _ => Act.updateNetwork fun n => (n.letGo link).shut link
    | .error e =>
        Act.warn (.unbindFailed url e)
        Act.updateNetwork fun n => n.letGo link
  else Act.updateNetwork fun n => n.letGo link

end ManagedLdap.Connection
