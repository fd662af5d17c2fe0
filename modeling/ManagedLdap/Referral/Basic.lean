/-
# ManagedLdap.Referral.Basic -- where a server sends its client instead

A referral lists addresses in the order of the server and remembers which one is next;
it also carries what following it takes: the configuration, the identity and the
properties of the context that received it.  A `ScriptedReferral` stands for a referral
of another origin, whose connections are recorded instead of opened.
-/
import ManagedLdap.Config.Basic
import ManagedLdap.Control

namespace ManagedLdap

set_option autoImplicit false

/-- The identity a context binds with. -/
structure Credentials where
  bindDn : String
  password : String
  deriving DecidableEq, Repr

namespace Credentials

/-- The view of an identity withholds the password. -/
def shown (c : Credentials) : Shown :=
  .record "Credentials"
    [("bind_dn", .text c.bindDn), ("password", .text LdapConfig.redaction)] false

end Credentials

/-- What a context hands to the referrals it receives. -/
structure ReferralOrigin where
  config : LdapConfig
  credentials : Credentials
  environment : Environment
  connectControls : List Control
  mode : ReferralMode
  deriving DecidableEq

namespace ReferralOrigin

def shown (o : ReferralOrigin) : Shown :=
  .record "ReferralOrigin"
    [("config", o.config.shown), ("credentials", o.credentials.shown),
      ("environment", .map (o.environment.entries.map fun e => (e.1, .text e.2))),
      ("connect_controls", .list (o.connectControls.map Control.shown)),
      ("mode", o.mode.shown)] false

end ReferralOrigin

/-- A referral received from a directory server. -/
structure LdapReferral where
  urls : List String
  /-- The position of the address that is next. -/
  index : Nat
  /-- The name the referred operation was about, for addresses that name none. -/
  target : String
  origin : ReferralOrigin
  deriving DecidableEq

namespace LdapReferral

/-- The address that is next. -/
def current? (r : LdapReferral) : Option String := r.urls[r.index]?

def shown (r : LdapReferral) : Shown :=
  .record "LdapReferral"
    [("urls", .list (r.urls.map .text)), ("index", .nat r.index), ("target", .text r.target),
      ("origin", r.origin.shown)] false

end LdapReferral

/-- A referral whose connections are recorded. -/
structure ScriptedReferral where
  urls : List String
  /-- The addresses that cannot be reached. -/
  down : List String
  /-- Whether the referral can move on to its next address. -/
  canSkip : Bool
  index : Nat := 0
  deriving DecidableEq, Repr

/-- A referral of either origin. -/
inductive Referral where
  | ldap (r : LdapReferral)
  | scripted (r : ScriptedReferral)
  deriving DecidableEq

namespace Referral

/-- The addresses, in the order of the server. -/
def urls : Referral → List String
  | .ldap r => r.urls
  | .scripted r => r.urls

/-- The wording of a referral. -/
def text (r : Referral) : String := "referral to [" ++ String.intercalate ", " r.urls ++ "]"

/-- The position after moving on from `index` in a list of that length, if there is one. -/
def nextIndex? (index length : Nat) : Option Nat :=
  if index + 1 < length then some (index + 1) else none

/-- Move on to the next address; false when there is none, and nothing moves. -/
def skip : Referral → Bool × Referral
  | .ldap r =>
      match nextIndex? r.index r.urls.length with
      | some i => (true, .ldap { r with index := i })
      | none => (false, .ldap r)
  | .scripted r =>
      match if r.canSkip then nextIndex? r.index r.urls.length else none with
      | some i => (true, .scripted { r with index := i })
      | none => (false, .scripted r)

def shown : Referral → Shown
  | .ldap r => .record "Referral" [("source", r.shown)] false
  | .scripted r =>
      .record "Referral" [("source", .record "ScriptedReferral" [("urls", .list (r.urls.map .text))]
        true)] false

end Referral

end ManagedLdap
