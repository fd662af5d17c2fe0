/-
# ManagedLdap.Referral.Target -- the server and the name a referral points at

An address of a referral names a server, whose port is filled in when it is missing,
and may name an entry, which is its path without the leading slashes and without percent
escapes.  Following the referral connects to the server and starts at the entry.
-/
import ManagedLdap.Error

namespace ManagedLdap

set_option autoImplicit false

/-- The server and the entry of a referral address. -/
structure ReferralTarget where
  serverUrl : String
  /-- The entry; empty when the address names none. -/
  dn : String
  deriving DecidableEq, Repr

/-- Why an address cannot be followed. -/
inductive TargetFault where
  | invalidUrl (url : String) (fault : UrlFault)
  | unsupportedScheme (scheme : String)
  | noHost (url : String)
  | invalidDn (fault : Text.Utf8Fault)
  deriving DecidableEq, Repr

namespace TargetFault

/-- The wording of a fault. -/
def message : TargetFault → String
  | .invalidUrl url fault => "invalid referral URL " ++ url ++ ": " ++ fault.message
  | .unsupportedScheme scheme => "unsupported referral URL scheme: " ++ scheme
  | .noHost url => "referral URL has no host: " ++ url
  | .invalidDn fault => "invalid DN in referral URL: " ++ fault.message

end TargetFault

namespace ReferralTarget

/-- The port of a directory scheme. -/
def defaultPort? (scheme : String) : Option Nat :=
  if scheme = "ldap" then some 389
  else if scheme = "ldaps" then some 636
  else none

/-- The target of an address: its text, its scheme, its host and its entry are looked at
in this order. -/
def parse (text : String) : Except TargetFault ReferralTarget :=
  match Url.parse text with
  | .error fault => .error (.invalidUrl text fault)
  | .ok url =>
      match defaultPort? url.scheme with
      | none => .error (.unsupportedScheme url.scheme)
      | some defaultPort =>
          match url.host with
          | none => .error (.noHost text)
          | some host =>
              let entry := String.ofList (url.path.toList.dropWhile (· == '/'))
              match Text.percentDecode entry with
              | .error fault => .error (.invalidDn fault)
              | .ok dn =>
                  .ok {
                    serverUrl := url.scheme ++ "://" ++ host ++ ":" ++
                      toString (url.port.getD defaultPort)
                    dn := dn }

end ReferralTarget

end ManagedLdap
