/-
# ManagedLdap.SocketFactory -- what configures a socket before it is opened

A socket factory decides how the next connection is set up.  The one that matters is
built from the TLS section of a configuration, once, when the files it names can be
read; the others carry a label and stand for factories a caller brings along.
-/
import ManagedLdap.Config.Basic
import ManagedLdap.HostFiles

namespace ManagedLdap

set_option autoImplicit false

/-- The settings of one attempt to connect. -/
structure ConnSettings where
  /-- How many seconds it may take, a request for encryption included. -/
  timeoutSecs : Nat
  /-- Whether encryption is to be requested on the plain connection. -/
  startTls : Bool
  /-- What an encrypted connection is made with; none for what the client library has. -/
  connector : Option TlsConfig := none
  deriving DecidableEq, Repr

/-- What configures a socket before it is opened. -/
inductive SocketFactory where
  /-- A factory that describes itself by its label. -/
  | named (label : String)
  /-- A factory without a description of its own. -/
  | plain (label : String)
  /-- The factory of a TLS section. -/
  | tls (settings : TlsConfig)
  deriving DecidableEq, Repr

namespace SocketFactory

/-- The description of the factory of a TLS section. -/
def tlsDescription (c : TlsConfig) : String :=
  "TlsSocketFactory(verify=" ++ (if c.verifyCertificate then "true" else "false") ++
    ", ca=" ++ c.caCertPath.getD "system" ++
    ", client_cert=" ++ (if c.clientCertPath.isSome then "true" else "false") ++
    ", min_version=" ++ c.minTlsVersion.getD "default" ++ ")"

def shown : SocketFactory → Shown
  | .named label => .word ("Named<" ++ label ++ ">")
  | .plain label => .wrapped "DebugFactory" (.text label)
  | .tls settings => .word (tlsDescription settings)

/-- A short label.  A factory without a description shows itself. -/
def describe : SocketFactory → String
  | .named label => label
  | .tls settings => tlsDescription settings
  | factory => factory.shown.render

/-- The settings as a factory leaves them: the factory of a TLS section brings its connector,
the others leave them as they are. -/
def configure (factory : SocketFactory) (settings : ConnSettings) : ConnSettings :=
  match factory with
  | .tls c => { settings with connector := some c }
  | _ => settings

/-- The settings as the factory leaves them that is in effect, if there is one. -/
def configured (factory : Option SocketFactory) (settings : ConnSettings) : ConnSettings :=
  factory.elim settings fun f => f.configure settings

/-- No factory touches whether encryption is requested. -/
@[simp] theorem configured_startTls (factory : Option SocketFactory) (settings : ConnSettings) :
    (configured factory settings).startTls = settings.startTls := by
  rcases factory with _ | _ | _ | _ <;> rfl

@[simp] theorem configured_timeoutSecs (factory : Option SocketFactory)
    (settings : ConnSettings) :
    (configured factory settings).timeoutSecs = settings.timeoutSecs := by
  rcases factory with _ | _ | _ | _ <;> rfl

/-- Whether a protocol version can be asked for as the lowest. -/
def isKnownVersion (version : String) : Bool :=
  version == "1.0" || version == "1.1" || version == "1.2"

/-- Read a file that a configuration names. -/
def readNamed (files : HostFiles) (what path : String) : Except ConfigFault Octets :=
  match files.read path with
  | .ok octets => .ok octets
  | .error cause => .error (.unreadableFile what path cause)

/-- The certificate authority of the settings can be used. -/
def checkCa (files : HostFiles) (c : TlsConfig) : Except ConfigFault Unit :=
  match c.caCertPath with
  | none => .ok ()
  | some path => do
      let octets ← readNamed files "CA certificate" path
      match files.certificateFault octets with
      | some cause => .error (.invalidCertificate path cause)
      | none => .ok ()

/-- The client identity of the settings can be used: both files or neither. -/
def checkIdentity (files : HostFiles) (c : TlsConfig) : Except ConfigFault Unit :=
  match c.clientCertPath, c.clientKeyPath with
  | some certPath, some keyPath => do
      let cert ← readNamed files "client certificate" certPath
      let key ← readNamed files "client key" keyPath
      match files.identityFault cert key with
      | some cause => .error (.invalidIdentity cause)
      | none => .ok ()
  | none, none => .ok ()
  | _, _ => .error .halfIdentity

/-- The lowest protocol version of the settings can be asked for. -/
def checkVersion (c : TlsConfig) : Except ConfigFault Unit :=
  match c.minTlsVersion with
  | none => .ok ()
  | some version => if isKnownVersion version then .ok () else .error (.unknownTlsVersion version)

/-- The factory of a TLS section: its authority, its identity and its version are looked
at in this order. -/
def ofTls (files : HostFiles) (c : TlsConfig) : Except ConfigFault SocketFactory := do
  checkCa files c
  checkIdentity files c
  checkVersion c
  return .tls c

end SocketFactory

end ManagedLdap
