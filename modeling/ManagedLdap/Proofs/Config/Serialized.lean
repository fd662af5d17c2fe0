/-
# ManagedLdap.Proofs.Config.Serialized -- a configuration survives being written and read

What is written of a configuration and what is read of it are said field by field in different
places: one leaves out the options that have no value, the other has a default for nearly every
field.  A name or a default that fits only one of them shows when just that field is there or is
not.  So the sections are read here with any of their fields left out (`ofJson?_kept`), and what
comes out is the configuration with these at their defaults (`keeping`).  Order and members that
nobody knows are no concern of a section (`Rearranged.read`), and how the JSON is spelt is none
of the reader (`parse_of_spells`).
-/
import ManagedLdap.Proofs.Config.Fields
import ManagedLdap.Proofs.Json.Writing
import ManagedLdap.Proofs.Text.Decimal

namespace ManagedLdap

set_option autoImplicit false

open Json (Fields Rearranged SpellsText Writes required_keep orElse_keep optional_keep)

/-! ## Values of fields -/

theorem Json.naturalTo?_natural {n hi : Nat} (small : n ≤ hi) :
    Json.naturalTo? hi (.natural n) = some n := by
  have within : (0 : Int) ≤ n ∧ (n : Int) ≤ hi := ⟨Int.natCast_nonneg n, Int.ofNat_le.2 small⟩
  rw [Json.naturalTo?, Json.natural, Json.wholeIn?, if_pos within]
  rfl

theorem Json.wholeIn?_whole {n lo hi : Int} (within : lo ≤ n ∧ n ≤ hi) :
    Json.wholeIn? lo hi (.whole n) = some n := if_pos within

theorem Json.bool?_bool (b : Bool) : Json.bool? (.bool b) = some b := rfl

theorem Json.text?_text (s : String) : Json.text? (.text s) = some s := rfl

theorem ReferralMode.choice?_text (mode : ReferralMode) :
    Json.choice? ReferralMode.choices (.text mode.text) = some mode := by
  cases mode <;> rfl

/-! ## Timeouts -/

namespace ConnectionSettings

/-- The members that the settings are written as. -/
def members (c : ConnectionSettings) : List (String × Json) :=
  [("connection_timeout_secs", .natural c.connectionTimeoutSecs),
    ("read_timeout_secs", .natural c.readTimeoutSecs)]

/-- The settings with every field that is not kept at its default. -/
def keeping (kept : String → Bool) (c : ConnectionSettings) : ConnectionSettings :=
  let fresh : ConnectionSettings := {}
  { connectionTimeoutSecs :=
      if kept "connection_timeout_secs" then c.connectionTimeoutSecs else fresh.connectionTimeoutSecs
    readTimeoutSecs := if kept "read_timeout_secs" then c.readTimeoutSecs else fresh.readTimeoutSecs }

/-- The settings that can be had: 64 bits for each time. -/
structure InRange (c : ConnectionSettings) : Prop where
  connectionTimeout : c.connectionTimeoutSecs ≤ Text.word64Max
  readTimeout : c.readTimeoutSecs ≤ Text.word64Max

theorem toJson_eq (c : ConnectionSettings) : c.toJson = .record c.members := rfl

theorem writes (c : ConnectionSettings) : Writes c.toJson := by
  rw [toJson_eq]
  refine Json.writes_record ?_
  simp [members, Json.writes_natural]

theorem ofJson?_kept {c : ConnectionSettings} (range : c.InRange) (kept : String → Bool) :
    ofJson? (.record (Json.keep kept c.members)) = some (c.keeping kept) := by
  have listed : (c.members.map Prod.fst).Sublist fieldNames := List.Sublist.refl fieldNames
  have first := Json.naturalTo?_natural range.connectionTimeout
  have second := Json.naturalTo?_natural range.readTimeout
  rw [ofJson?, Json.ofJson?_keep (by decide) listed]
  simp only [Option.bind_eq_bind, Option.bind_some]
  rw [orElse_keep rfl first, orElse_keep rfl second]
  rfl

theorem ofJson?_rearranged {members rearranged : List (Json.Literal × Json)}
    (same : Rearranged fieldNames members rearranged) :
    ofJson? (.object rearranged) = ofJson? (.object members) := by
  refine same.read fun alike => ?_
  simp only [Fields.orElse, alike.found]

end ConnectionSettings

/-! ## Encryption -/

namespace TlsConfig

/-- The members that the settings are written as. -/
def members (c : TlsConfig) : List (String × Json) :=
  [("enabled", .bool c.enabled), ("verify_certificate", .bool c.verifyCertificate)] ++
    Json.memberOf "ca_cert_path" .text c.caCertPath ++
    Json.memberOf "client_cert_path" .text c.clientCertPath ++
    Json.memberOf "client_key_path" .text c.clientKeyPath ++
    Json.memberOf "min_tls_version" .text c.minTlsVersion

/-- The settings with every field that is not kept at its default. -/
def keeping (kept : String → Bool) (c : TlsConfig) : TlsConfig :=
  let fresh : TlsConfig := {}
  { enabled := if kept "enabled" then c.enabled else fresh.enabled
    verifyCertificate :=
      if kept "verify_certificate" then c.verifyCertificate else fresh.verifyCertificate
    caCertPath := if kept "ca_cert_path" then c.caCertPath else fresh.caCertPath
    clientCertPath := if kept "client_cert_path" then c.clientCertPath else fresh.clientCertPath
    clientKeyPath := if kept "client_key_path" then c.clientKeyPath else fresh.clientKeyPath
    minTlsVersion := if kept "min_tls_version" then c.minTlsVersion else fresh.minTlsVersion }

theorem toJson_eq (c : TlsConfig) : c.toJson = .record c.members := rfl

theorem writes (c : TlsConfig) : Writes c.toJson := by
  have option (name : String) (value : Option String) :
      ∀ m ∈ Json.memberOf name .text value, Writes m.2 :=
    Json.forall_mem_memberOf Json.writes_text value
  rw [toJson_eq]
  refine Json.writes_record ?_
  simp only [members, List.forall_mem_append]
  refine ⟨⟨⟨⟨?_, option _ _⟩, option _ _⟩, option _ _⟩, option _ _⟩
  simp [Json.writes_bool]

theorem ofJson?_kept (c : TlsConfig) (kept : String → Bool) :
    ofJson? (.record (Json.keep kept c.members)) = some (c.keeping kept) := by
  have listed : (c.members.map Prod.fst).Sublist fieldNames := by
    simp only [members, List.map_append]
    exact ((((List.Sublist.refl _).append (Json.memberOf_sublist ..)).append
      (Json.memberOf_sublist ..)).append (Json.memberOf_sublist ..)).append
      (Json.memberOf_sublist ..)
  have enabled : Fields.find? ⟨c.members, false⟩ "enabled" = some (.bool c.enabled) := rfl
  have verify : Fields.find? ⟨c.members, false⟩ "verify_certificate" =
      some (.bool c.verifyCertificate) := rfl
  have ca : Fields.find? ⟨c.members, false⟩ "ca_cert_path" = c.caCertPath.map .text := by
    simp [members, Json.find?_append, Json.find?_cons, Json.find?_memberOf]
  have cert : Fields.find? ⟨c.members, false⟩ "client_cert_path" = c.clientCertPath.map .text := by
    simp [members, Json.find?_append, Json.find?_cons, Json.find?_memberOf]
  have key : Fields.find? ⟨c.members, false⟩ "client_key_path" = c.clientKeyPath.map .text := by
    simp [members, Json.find?_append, Json.find?_cons, Json.find?_memberOf]
  have version : Fields.find? ⟨c.members, false⟩ "min_tls_version" =
      c.minTlsVersion.map .text := by
    simp [members, Json.find?_append, Json.find?_cons, Json.find?_memberOf]
  rw [ofJson?, Json.ofJson?_keep (by decide) listed]
  simp only [Option.bind_eq_bind, Option.bind_some]
  rw [orElse_keep enabled (Json.bool?_bool _), orElse_keep verify (Json.bool?_bool _),
    optional_keep ca, optional_keep cert, optional_keep key, optional_keep version]
  rfl

theorem ofJson?_rearranged {members rearranged : List (Json.Literal × Json)}
    (same : Rearranged fieldNames members rearranged) :
    ofJson? (.object rearranged) = ofJson? (.object members) := by
  refine same.read fun alike => ?_
  simp only [Fields.orElse, Fields.optional, alike.found, alike.placed]

end TlsConfig

/-! ## Configurations -/

namespace LdapConfig

/-- The members that a configuration is written as, with its sections in this form. -/
def members (connection tls : Json) (c : LdapConfig) : List (String × Json) :=
  [("host", .text c.host), ("port", .natural c.port), ("use_ssl", .bool c.useSsl),
      ("use_starttls", .bool c.useStartTls), ("base_dn", .text c.baseDn),
      ("bind_dn", .text c.bindDn)] ++
    Json.memberOf "bind_password" .text c.bindPassword ++
    [("referral", .text c.referral.text), ("connection", connection), ("tls", tls),
      ("page_size", .whole c.pageSize)]

/-- The configurations that can be had: 16 bits for the port and 32 for the page size. -/
structure InRange (c : LdapConfig) : Prop where
  port : c.port ≤ 65535
  connection : c.connection.InRange
  pageSize : Text.Word32 c.pageSize

/-- Which fields stand in the JSON of a configuration.  Any may be left out but the host. -/
structure Kept where
  top : String → Bool
  connection : String → Bool
  tls : String → Bool
  host : top "host" = true

/-- The configuration with every field that is not kept at its default. -/
def keeping (kept : Kept) (c : LdapConfig) : LdapConfig :=
  let fresh : LdapConfig := { host := c.host }
  { host := c.host
    port := if kept.top "port" then c.port else fresh.port
    useSsl := if kept.top "use_ssl" then c.useSsl else fresh.useSsl
    useStartTls := if kept.top "use_starttls" then c.useStartTls else fresh.useStartTls
    baseDn := if kept.top "base_dn" then c.baseDn else fresh.baseDn
    bindDn := if kept.top "bind_dn" then c.bindDn else fresh.bindDn
    bindPassword := if kept.top "bind_password" then c.bindPassword else fresh.bindPassword
    referral := if kept.top "referral" then c.referral else fresh.referral
    connection :=
      if kept.top "connection" then c.connection.keeping kept.connection else fresh.connection
    tls := if kept.top "tls" then c.tls.keeping kept.tls else fresh.tls
    pageSize := if kept.top "page_size" then c.pageSize else fresh.pageSize }

theorem toJson_eq (c : LdapConfig) :
    c.toJson = .record (c.members c.connection.toJson c.tls.toJson) := rfl

theorem writes (c : LdapConfig) : Writes c.toJson := by
  rw [toJson_eq]
  refine Json.writes_record ?_
  simp only [members, List.forall_mem_append]
  refine ⟨⟨?_, Json.forall_mem_memberOf Json.writes_text _⟩, ?_⟩
  · simp [Json.writes_text, Json.writes_natural, Json.writes_bool]
  · simp [Json.writes_text, Json.writes_whole, c.connection.writes, c.tls.writes]

theorem ofJson?_kept {c : LdapConfig} (range : c.InRange) {connection tls : Json} (kept : Kept)
    (readsConnection :
      ConnectionSettings.ofJson? connection = some (c.connection.keeping kept.connection))
    (readsTls : TlsConfig.ofJson? tls = some (c.tls.keeping kept.tls)) :
    ofJson? (.record (Json.keep kept.top (c.members connection tls))) = some (c.keeping kept) := by
  have listed : ((c.members connection tls).map Prod.fst).Sublist fieldNames := by
    simp only [members, List.map_append]
    exact ((List.Sublist.refl _).append (Json.memberOf_sublist ..)).append (List.Sublist.refl _)
  have here (name : String) {j : Json} (among : (name, j) ∈ c.members connection tls) :
      Fields.find? ⟨c.members connection tls, false⟩ name = some j :=
    Json.find?_of_mem (by decide) listed among
  have port := Json.naturalTo?_natural range.port
  have pageSize := Json.wholeIn?_whole range.pageSize
  have password : Fields.find? ⟨c.members connection tls, false⟩ "bind_password" =
      c.bindPassword.map .text := by
    simp [members, Json.find?_append, Json.find?_cons, Json.find?_memberOf, Json.find?_nil]
  rw [ofJson?, Json.ofJson?_keep (by decide) listed]
  simp only [Option.bind_eq_bind, Option.bind_some]
  rw [required_keep (here "host" (by simp [members])) (Json.text?_text c.host) kept.host,
    orElse_keep (here "port" (by simp [members])) port,
    orElse_keep (here "use_ssl" (by simp [members])) (Json.bool?_bool c.useSsl),
    orElse_keep (here "use_starttls" (by simp [members])) (Json.bool?_bool c.useStartTls),
    orElse_keep (here "base_dn" (by simp [members])) (Json.text?_text c.baseDn),
    orElse_keep (here "bind_dn" (by simp [members])) (Json.text?_text c.bindDn),
    optional_keep password,
    orElse_keep (here "referral" (by simp [members])) c.referral.choice?_text,
    orElse_keep (here "connection" (by simp [members])) readsConnection,
    orElse_keep (here "tls" (by simp [members])) readsTls,
    orElse_keep (here "page_size" (by simp [members])) pageSize]
  rfl

theorem ofJson?_rearranged {members rearranged : List (Json.Literal × Json)}
    (same : Rearranged fieldNames members rearranged) :
    ofJson? (.object rearranged) = ofJson? (.object members) := by
  refine same.read fun alike => ?_
  simp only [Fields.required, Fields.orElse, Fields.optional, alike.found, alike.placed]

/-- An object with the fields of a configuration that are kept, and such objects for its sections.
Each has its fields in any order, among members that it does not know. -/
def CarriedBy (c : LdapConfig) (kept : Kept) (j : Json) : Prop :=
  ∃ connection tls members,
    Rearranged ConnectionSettings.fieldNames
      (Json.named (Json.keep kept.connection c.connection.members)) connection ∧
    Rearranged TlsConfig.fieldNames (Json.named (Json.keep kept.tls c.tls.members)) tls ∧
    Rearranged fieldNames
      (Json.named (Json.keep kept.top (c.members (.object connection) (.object tls)))) members ∧
    j = .object members

theorem parse?_of_spells {j : Json} {text : String} (spelt : SpellsText j text) :
    parse? text = ofJson? j := by
  rw [parse?, Json.parse_of_spells spelt, Option.bind_some]

theorem ofJson?_carried {c : LdapConfig} (range : c.InRange) {kept : Kept} {j : Json}
    (carried : c.CarriedBy kept j) : ofJson? j = some (c.keeping kept) := by
  obtain ⟨connection, tls, members, sameConnection, sameTls, same, rfl⟩ := carried
  have readsConnection := ConnectionSettings.ofJson?_rearranged sameConnection
  have readsTls := TlsConfig.ofJson?_rearranged sameTls
  rw [ofJson?_rearranged same]
  exact ofJson?_kept range kept
    (readsConnection.trans (ConnectionSettings.ofJson?_kept range.connection kept.connection))
    (readsTls.trans (TlsConfig.ofJson?_kept c.tls kept.tls))

/-- **A configuration survives.**  What is written of it is read as the same configuration.  It is
also read of every text of its JSON in which fields are left out, at the top and in the sections,
and their order and members nobody knows make no difference: those fields are at their defaults,
and all others are as they were.  Neither does the order of any other object, an unknown member of
it or a blank say whether it is read, or as what. -/
theorem survives_serialization (c : LdapConfig) (range : c.InRange) :
    parse? (Json.render c.toJson) = some c ∧
    (∀ (kept : Kept) (j : Json) (text : String), c.CarriedBy kept j → SpellsText j text →
      parse? text = some (c.keeping kept)) ∧
    ∀ (members rearranged : List (Json.Literal × Json)) (text other : String),
      Rearranged fieldNames members rearranged → SpellsText (.object members) text →
      SpellsText (.object rearranged) other → parse? other = parse? text := by
  have carries (kept : Kept) (j : Json) (text : String) (carried : c.CarriedBy kept j)
      (spelt : SpellsText j text) : parse? text = some (c.keeping kept) :=
    (parse?_of_spells spelt).trans (ofJson?_carried range carried)
  refine ⟨?_, carries, ?_⟩
  · let all : Kept := ⟨fun _ => true, fun _ => true, fun _ => true, rfl⟩
    have carried : c.CarriedBy all c.toJson := by
      refine ⟨Json.named c.connection.members, Json.named c.tls.members, _, ?_, ?_,
        Rearranged.refl _ _, ?_⟩
      · rw [Json.keep_all]
        exact Rearranged.refl _ _
      · rw [Json.keep_all]
        exact Rearranged.refl _ _
      · rw [Json.keep_all]
        exact c.toJson_eq
    exact carries all c.toJson _ carried (Json.spells_render c.writes)
  · intro members rearranged text other same spelt respelt
    rw [parse?_of_spells spelt, parse?_of_spells respelt, ofJson?_rearranged same]

/-- Two fields that are left of a configuration, in the other order and behind an unknown one. -/
theorem survives_serialization_of_two_fields :
    let c : LdapConfig := { new "h" "dc=x" with port := 636, bindPassword := some "p" }
    let text := "\x7b\"x\":null,\"port\":636, \"host\":\"h\"\x7d"
    c.InRange ∧ parse? (Json.render c.toJson) = some c ∧
      parse? text = some { host := "h", port := 636 } := by
  intro c text
  have range : c.InRange := ⟨by decide, ⟨by decide, by decide⟩, by decide⟩
  let kept : Kept :=
    ⟨fun name => name == "host" || name == "port", fun _ => false, fun _ => false, rfl⟩
  let members : List (Json.Literal × Json) :=
    [(some "x", .null), (some "port", .natural 636), (some "host", .text "h")]
  have carried : c.CarriedBy kept (.object members) := by
    refine ⟨_, _, members, Rearranged.refl _ _, Rearranged.refl _ _, ?_, rfl⟩
    refine ⟨[(some "x", .null)], ?_, (List.reverse_perm members).symm⟩
    exact List.forall_mem_singleton.2 ⟨"x", rfl, by decide⟩
  have space : Json.Blanks [' '] := fun c among => .inl (List.mem_singleton.1 among)
  have none : Json.Blanks [] := Json.blanks_nil
  have host : Json.SpellsName (some "host") ([' '] ++ Json.writeLiteral (some "host") ++ [':']) :=
    ⟨[' '], _, [], space, Json.spellsLiteral_write "host", none, rfl⟩
  have fields := Json.SpellsMembers.more (Json.spellsName_write "x") (.null none) none
    (.more (Json.spellsName_write "port") (Json.writes_natural 636) none
      (.last host (Json.writes_text "h") none))
  have spelt : SpellsText (.object members) text :=
    ⟨_, [], .object none fields, none, by decide⟩
  obtain ⟨whole, left, -⟩ := survives_serialization c range
  exact ⟨range, whole, left kept _ text carried spelt⟩

end LdapConfig

end ManagedLdap
