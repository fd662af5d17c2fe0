/-
# ManagedLdap.Config.Basic -- the settings of a connection

A configuration names the server, the identity and how the two are connected.  It is
built step by step or read from JSON, and checked as a whole by `LdapConfig.validate`,
which stops at the first fault in a fixed order.  What a configuration shows of itself
never contains the password.
-/
import ManagedLdap.Environment
import ManagedLdap.Text.Shown

namespace ManagedLdap

set_option autoImplicit false

/-! ## Settings -/

/-- Timeouts in seconds. -/
structure ConnectionSettings where
  connectionTimeoutSecs : Nat := 30
  /-- The limit for one operation; none when zero. -/
  readTimeoutSecs : Nat := 60
  deriving DecidableEq, Repr

namespace ConnectionSettings

/-- The limit for one operation, if there is one. -/
def readTimeout? (c : ConnectionSettings) : Option Nat :=
  if c.readTimeoutSecs > 0 then some c.readTimeoutSecs else none

def shown (c : ConnectionSettings) : Shown :=
  .record "ConnectionSettings"
    [("connection_timeout_secs", .nat c.connectionTimeoutSecs),
      ("read_timeout_secs", .nat c.readTimeoutSecs)] false

end ConnectionSettings

/-- How an encrypted connection is set up. -/
structure TlsConfig where
  enabled : Bool := false
  verifyCertificate : Bool := true
  /-- A certificate authority to trust beside those of the system. -/
  caCertPath : Option String := none
  clientCertPath : Option String := none
  clientKeyPath : Option String := none
  /-- The lowest protocol version to accept. -/
  minTlsVersion : Option String := none
  deriving DecidableEq, Repr

namespace TlsConfig

/-- Encryption with every other setting left alone. -/
def encrypted : TlsConfig := { enabled := true }

def withCaCert (c : TlsConfig) (path : String) : TlsConfig :=
  { c with caCertPath := some path }

def withClientCert (c : TlsConfig) (cert key : String) : TlsConfig :=
  { c with clientCertPath := some cert, clientKeyPath := some key }

def withMinTlsVersion (c : TlsConfig) (version : String) : TlsConfig :=
  { c with minTlsVersion := some version }

/-- Whether the settings encrypt towards a peer nobody checks. -/
def isInsecure (c : TlsConfig) : Bool := c.enabled && !c.verifyCertificate

def shown (c : TlsConfig) : Shown :=
  .record "TlsConfig"
    [("enabled", .bool c.enabled), ("verify_certificate", .bool c.verifyCertificate),
      ("ca_cert_path", .option .text c.caCertPath),
      ("client_cert_path", .option .text c.clientCertPath),
      ("client_key_path", .option .text c.clientKeyPath),
      ("min_tls_version", .option .text c.minTlsVersion)] false

end TlsConfig

/-- The settings of a directory connection. -/
structure LdapConfig where
  host : String
  port : Nat := 389
  /-- Encrypted from the first octet on. -/
  useSsl : Bool := false
  /-- Encrypted after a request on the plain connection. -/
  useStartTls : Bool := false
  /-- The name of the initial context. -/
  baseDn : String := ""
  /-- The identity to bind with; anonymous when empty. -/
  bindDn : String := ""
  bindPassword : Option String := none
  referral : ReferralMode := .ignore
  connection : ConnectionSettings := {}
  tls : TlsConfig := {}
  /-- The page size of searches; zero does without pages. -/
  pageSize : Int := 500
  deriving DecidableEq, Repr

namespace ReferralMode

/-- The name of a mode as a constant. -/
def shown : ReferralMode → Shown
  | .ignore => .word "Ignore"
  | .throw => .word "Throw"

end ReferralMode

namespace LdapConfig

/-! ## Building -/

/-- A configuration of the required settings. -/
def new (host baseDn : String) : LdapConfig := { host := host, baseDn := baseDn }

def withCredentials (c : LdapConfig) (bindDn password : String) : LdapConfig :=
  { c with bindDn := bindDn, bindPassword := some password }

/-- Encrypt from the first octet on, at the port for that. -/
def withSsl (c : LdapConfig) : LdapConfig :=
  { c with useSsl := true, port := 636, tls := { c.tls with enabled := true } }

/-- Encrypt after a request on the plain connection. -/
def withStartTls (c : LdapConfig) : LdapConfig :=
  { c with useStartTls := true, tls := { c.tls with enabled := true } }

def withReferralMode (c : LdapConfig) (mode : ReferralMode) : LdapConfig :=
  { c with referral := mode }

def withTls (c : LdapConfig) (tls : TlsConfig) : LdapConfig := { c with tls := tls }

def withPageSize (c : LdapConfig) (size : Int) : LdapConfig := { c with pageSize := size }

/-! ## Views -/

/-- The address of the server. -/
def url (c : LdapConfig) : String :=
  (if c.useSsl then "ldaps" else "ldap") ++ "://" ++ c.host ++ ":" ++ toString c.port

/-- The password; empty when there is none. -/
def password (c : LdapConfig) : String := c.bindPassword.getD ""

/-- What stands where a password would. -/
def redaction : String := "***REDACTED***"

/-- The same configuration without its password. -/
def redacted (c : LdapConfig) : LdapConfig :=
  { c with bindPassword := c.bindPassword.map fun _ => redaction }

def shown (c : LdapConfig) : Shown :=
  .record "LdapConfig"
    [("host", .text c.host), ("port", .nat c.port), ("use_ssl", .bool c.useSsl),
      ("use_starttls", .bool c.useStartTls), ("base_dn", .text c.baseDn),
      ("bind_dn", .text c.bindDn),
      ("bind_password", .option (fun _ => .text redaction) c.bindPassword),
      ("referral", c.referral.shown), ("connection", c.connection.shown),
      ("tls", c.tls.shown), ("page_size", .word (toString c.pageSize))] false

end LdapConfig

/-! ## Faults -/

/-- Why a configuration cannot be used. -/
inductive ConfigFault where
  | hostMissing
  | baseMissing
  | twoEncryptions
  | passwordMissing
  | negativePageSize
  | unreadableFile (what path cause : String)
  | invalidCertificate (path cause : String)
  | invalidIdentity (cause : String)
  | halfIdentity
  | unknownTlsVersion (version : String)
  deriving DecidableEq, Repr

namespace ConfigFault

/-- The wording of a fault. -/
def message : ConfigFault → String
  | .hostMissing => "host is required"
  | .baseMissing => "base_dn is required"
  | .twoEncryptions => "cannot use both SSL and STARTTLS"
  | .passwordMissing => "bind_password is required when bind_dn is set"
  | .negativePageSize => "page_size must not be negative"
  | .unreadableFile what path cause => "cannot read " ++ what ++ " " ++ path ++ ": " ++ cause
  | .invalidCertificate path cause => "invalid CA certificate " ++ path ++ ": " ++ cause
  | .invalidIdentity cause => "invalid client identity: " ++ cause
  | .halfIdentity => "client_cert_path and client_key_path must be set together"
  | .unknownTlsVersion version => "unsupported minimum TLS version: " ++ version

end ConfigFault

namespace LdapConfig

/-- The first fault of a configuration. -/
def fault? (c : LdapConfig) : Option ConfigFault :=
  if c.host.isEmpty then some .hostMissing
  else if (Text.trim c.baseDn).isEmpty then some .baseMissing
  else if c.useSsl && c.useStartTls then some .twoEncryptions
  else if !c.bindDn.isEmpty && c.password.isEmpty then some .passwordMissing
  else if c.pageSize < 0 then some .negativePageSize
  else none

end LdapConfig

end ManagedLdap
