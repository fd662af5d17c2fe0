/-
# ManagedLdap.Environment -- the properties of a context

A context carries named text properties that outlive its operations; four of them are
read by the library itself.  `ReferralMode` is the one that decides whether a referral
from a server becomes an error that can be followed or one that cannot.
-/
import ManagedLdap.OrderedMap
import ManagedLdap.Text.Blank

namespace ManagedLdap

set_option autoImplicit false

/-- The properties of a context. -/
abbrev Environment := OrderedMap String

namespace Property

/-- How referrals are surfaced; overrides the configuration. -/
def referral : String := "referral"

/-- The page size of searches; overrides the configuration. -/
def pageSize : String := "page_size"

/-- The address of the server. -/
def providerUrl : String := "provider_url"

/-- The identity the context is bound with. -/
def securityPrincipal : String := "security_principal"

end Property

/-- How referrals of the server are surfaced. -/
inductive ReferralMode where
  /-- Continuation references are skipped, and a referral makes the result partial. -/
  | ignore
  /-- Referrals are errors that carry where to go. -/
  | throw
  deriving DecidableEq, Repr, Inhabited

namespace ReferralMode

/-- The written form. -/
def text : ReferralMode → String
  | .ignore => "ignore"
  | .throw => "throw"

/-- All modes with their written form. -/
def choices : List (String × ReferralMode) := [("ignore", .ignore), ("throw", .throw)]

/-- The mode of a property value: any value but `throw`, in any case, ignores. -/
def ofProperty (value : String) : ReferralMode :=
  if Text.sameFold value "throw" then .throw else .ignore

/-- The properties of a context that starts out in this mode. -/
def environment (mode : ReferralMode) : Environment :=
  OrderedMap.empty.insert Property.referral mode.text

end ReferralMode

end ManagedLdap
