/-
# ManagedLdap.Control -- controls and extended operations

A control accompanies a request or a response: an object identifier, whether the
peer must understand it, and optional octets.
-/
import ManagedLdap.Text.Shown

namespace ManagedLdap

set_option autoImplicit false

/-- A control of a request or a response. -/
structure Control where
  oid : String
  critical : Bool
  value : Option Octets
  deriving DecidableEq, Repr, Inhabited

namespace Control

/-- The identifier of the paged results control. -/
def pagedResults : String := "1.2.840.113556.1.4.319"

def shown (c : Control) : Shown :=
  .record "Control"
    [("oid", .text c.oid), ("critical", .bool c.critical), ("value", .option .octets c.value)]
    false

end Control

/-- An operation beyond the standard ones. -/
structure ExtendedRequest where
  oid : String
  value : Option Octets
  deriving DecidableEq, Repr

/-- The answer to an extended operation. -/
structure ExtendedResponse where
  oid : Option String
  value : Option Octets
  deriving DecidableEq, Repr

end ManagedLdap
