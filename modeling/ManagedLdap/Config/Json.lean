/-
# ManagedLdap.Config.Json -- configuration as JSON

A section is an object, or an array of its fields in their order.  In an object every
field may be absent that has a default or is optional, unknown members are passed over,
and no known field may stand twice.  In an array trailing fields may be absent as far as
they have a default; an optional field without a default has to be there.
-/
import ManagedLdap.Config.Basic
import ManagedLdap.Json.Choice
import ManagedLdap.Json.Reader
import ManagedLdap.Json.Printer

namespace ManagedLdap

set_option autoImplicit false

namespace Json

/-! ## Fields of a section -/

/-- The known fields of a section that are present. -/
structure Fields where
  present : List (String × Json)
  /-- Whether the fields were given by position. -/
  byPosition : Bool

namespace Fields

/-- The known members of an object, in turn; nothing when a name denotes no text or a
known one stands twice. -/
def ofMembers (known : List String) :
    List (Literal × Json) → List (String × Json) → Option (List (String × Json))
  | [], seen => some seen
  | (none, _) :: _, _ => none
  | (some name, value) :: rest, seen =>
      if known.contains name then
        if seen.any (fun f => f.1 == name) then none
        else ofMembers known rest (seen ++ [(name, value)])
      else ofMembers known rest seen

/-- The fields of an object or array. -/
def ofJson? (known : List String) : Json → Option Fields
  | .object members => (ofMembers known members []).map fun fields => ⟨fields, false⟩
  | .array items =>
      if items.length ≤ known.length then some ⟨known.zip items, true⟩ else none
  | _ => none

def find? (f : Fields) (name : String) : Option Json :=
  (f.present.find? fun e => e.1 == name).map Prod.snd

/-- A field that has to be present. -/
def required {α : Type} (f : Fields) (name : String) (read : Json → Option α) : Option α :=
  (f.find? name).bind read

/-- A field with a default. -/
def orElse {α : Type} (f : Fields) (name : String) (default : α) (read : Json → Option α) :
    Option α :=
  match f.find? name with
  | some j => read j
  | none => some default

/-- An optional field, which may also be `null`. -/
def optional {α : Type} (f : Fields) (name : String) (read : Json → Option α) :
    Option (Option α) :=
  match f.find? name with
  | some .null => some none
  | some j => (read j).map some
  | none => if f.byPosition then none else some none

end Fields

/-- A member that is left out when there is no value. -/
def memberOf {α : Type} (name : String) (json : α → Json) : Option α → List (String × Json)
  | none => []
  | some a => [(name, json a)]

end Json

/-! ## Sections -/

namespace ConnectionSettings

def fieldNames : List String := ["connection_timeout_secs", "read_timeout_secs"]

def ofJson? (j : Json) : Option ConnectionSettings := do
  let f ← Json.Fields.ofJson? fieldNames j
  let word := Json.naturalTo? Text.word64Max
  return {
    connectionTimeoutSecs := ← f.orElse "connection_timeout_secs" 30 word
    readTimeoutSecs := ← f.orElse "read_timeout_secs" 60 word }

def toJson (c : ConnectionSettings) : Json :=
  .record [("connection_timeout_secs", .natural c.connectionTimeoutSecs),
    ("read_timeout_secs", .natural c.readTimeoutSecs)]

end ConnectionSettings

namespace TlsConfig

def fieldNames : List String :=
  ["enabled", "verify_certificate", "ca_cert_path", "client_cert_path", "client_key_path",
    "min_tls_version"]

def ofJson? (j : Json) : Option TlsConfig := do
  let f ← Json.Fields.ofJson? fieldNames j
  return {
    enabled := ← f.orElse "enabled" false Json.bool?
    verifyCertificate := ← f.orElse "verify_certificate" true Json.bool?
    caCertPath := ← f.optional "ca_cert_path" Json.text?
    clientCertPath := ← f.optional "client_cert_path" Json.text?
    clientKeyPath := ← f.optional "client_key_path" Json.text?
    minTlsVersion := ← f.optional "min_tls_version" Json.text? }

def toJson (c : TlsConfig) : Json :=
  .record ([("enabled", .bool c.enabled), ("verify_certificate", .bool c.verifyCertificate)] ++
    Json.memberOf "ca_cert_path" .text c.caCertPath ++
    Json.memberOf "client_cert_path" .text c.clientCertPath ++
    Json.memberOf "client_key_path" .text c.clientKeyPath ++
    Json.memberOf "min_tls_version" .text c.minTlsVersion)

/-- The settings of a JSON text. -/
def parse? (s : String) : Option TlsConfig := (Json.parse s).bind ofJson?

end TlsConfig

namespace LdapConfig

def fieldNames : List String :=
  ["host", "port", "use_ssl", "use_starttls", "base_dn", "bind_dn", "bind_password",
    "referral", "connection", "tls", "page_size"]

def ofJson? (j : Json) : Option LdapConfig := do
  let f ← Json.Fields.ofJson? fieldNames j
  return {
    host := ← f.required "host" Json.text?
    port := ← f.orElse "port" 389 (Json.naturalTo? 65535)
    useSsl := ← f.orElse "use_ssl" false Json.bool?
    useStartTls := ← f.orElse "use_starttls" false Json.bool?
    baseDn := ← f.orElse "base_dn" "" Json.text?
    bindDn := ← f.orElse "bind_dn" "" Json.text?
    bindPassword := ← f.optional "bind_password" Json.text?
    referral := ← f.orElse "referral" .ignore (Json.choice? ReferralMode.choices)
    connection := ← f.orElse "connection" {} ConnectionSettings.ofJson?
    tls := ← f.orElse "tls" {} TlsConfig.ofJson?
    pageSize := ← f.orElse "page_size" 500 (Json.wholeIn? (-2147483648) 2147483647) }

def toJson (c : LdapConfig) : Json :=
  .record ([("host", .text c.host), ("port", .natural c.port), ("use_ssl", .bool c.useSsl),
      ("use_starttls", .bool c.useStartTls), ("base_dn", .text c.baseDn),
      ("bind_dn", .text c.bindDn)] ++
    Json.memberOf "bind_password" .text c.bindPassword ++
    [("referral", .text c.referral.text), ("connection", c.connection.toJson),
      ("tls", c.tls.toJson), ("page_size", .whole c.pageSize)])

/-- The configuration of a JSON text. -/
def parse? (s : String) : Option LdapConfig := (Json.parse s).bind ofJson?

end LdapConfig

end ManagedLdap
