/-
# ManagedLdap.Referral.Connect -- opening the context a referral points at

A referral connects to the server of its next address, with the identity, the properties
and the controls of the context that received it, and starts at the entry the address
names or, where it names none, at the one the referred operation was about.  Connecting
never moves the referral on: whoever holds it decides whether to try the next address.
-/
import ManagedLdap.Plain
import ManagedLdap.Referral.Target

namespace ManagedLdap

set_option autoImplicit false

variable {κ σ : Type}

namespace LdapReferral

/-- Where the next address points: its server, and the entry to start at. -/
def destination (r : LdapReferral) : Except DirError ReferralTarget :=
  match r.current? with
  | none => .error (.invalidData "referral has no URLs")
  | some url =>
      match ReferralTarget.parse url with
      | .error fault => .error (.invalidData fault.message)
      | .ok target => .ok (if target.dn.isEmpty then { target with dn := r.target } else target)

/-- Open the context of the next address. -/
def connect (r : LdapReferral) : Act κ σ LdapDirContext := do
  let target ← LdapDirContext.demand r.destination
  let o := r.origin
  match ← Act.outcome (LdapDirContext.openAt target.serverUrl target.dn o.config o.credentials
      o.environment o.connectControls) with
  | .ok context => return context
  | .error (.error e) =>
      Act.warn (.referralConnection target.serverUrl e)
      Act.fail e
  | .error .panic => Act.failWith .panic

end LdapReferral

namespace ScriptedReferral

/-- The address that is next; empty when there is none. -/
def current (r : ScriptedReferral) : String := r.urls[r.index]?.getD ""

/-- Record the attempt; the context is a scripted one with the LDAP capability. -/
def connect (r : ScriptedReferral) : Act κ σ ScriptedContext := do
  Act.record (.referralConnect r.current)
  if r.down.contains r.current then
    Act.fail (.communication (r.current ++ " unreachable") none)
  else return { name := "referred", ldap := true }

end ScriptedReferral

namespace Referral

/-- Open the context of the next address. -/
def connect : Referral → Act κ σ Plain
  | .ldap r => .inl <$> r.connect
  | .scripted r => .inr <$> r.connect

end Referral

end ManagedLdap
