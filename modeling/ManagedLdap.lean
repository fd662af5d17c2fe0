import ManagedLdap.ContextId
import ManagedLdap.Config.Json
import ManagedLdap.Json.Choice
import ManagedLdap.Json.Printer
import ManagedLdap.Proofs.Facade.Disposal
import ManagedLdap.Proofs.Facade.Methods
import ManagedLdap.Proofs.Facade.Slot
import ManagedLdap.Proofs.Filter.Placeholders
import ManagedLdap.Proofs.Ldap.Traffic
import ManagedLdap.Session.Guards
import ManagedLdap.Session.Pulls
import ManagedLdap.Session.Run
import ManagedLdap.Proofs.Ldap.Calls
import ManagedLdap.Proofs.Ldap.Opening
import ManagedLdap.Proofs.Ldap.Shares
import ManagedLdap.Proofs.Ldap.Fleet
import ManagedLdap.Proofs.Ldap.Unbind
import ManagedLdap.Proofs.Ldap.LazySearch
import ManagedLdap.Proofs.Ldap.References
import ManagedLdap.Proofs.Facade.HandOff
import ManagedLdap.Proofs.Ldap.Referrals
import ManagedLdap.Proofs.Ldap.Controls
import ManagedLdap.Proofs.Ldap.Failures
import ManagedLdap.Proofs.Facade.Transparent
import ManagedLdap.Proofs.Secrecy.Ldap
import ManagedLdap.Proofs.Secrecy.Cursor
import ManagedLdap.Proofs.Secrecy.Facade
import ManagedLdap.Proofs.Secrecy.Session
import ManagedLdap.Proofs.Secrecy.Passwords
import ManagedLdap.Proofs.Secrecy.Unauthenticated
import ManagedLdap.Proofs.Ldap.Family
import ManagedLdap.Proofs.Scope.Stack
import ManagedLdap.Proofs.Scope.Nesting
import ManagedLdap.Proofs.Scope.Threads
import ManagedLdap.Proofs.Ldap.Targets
import ManagedLdap.Proofs.Facade.TlsSettings
import ManagedLdap.Proofs.Ldap.Renaming
import ManagedLdap.Proofs.Name.Relative
import ManagedLdap.Proofs.Name.Splitting
import ManagedLdap.Proofs.Filter.Scanning
import ManagedLdap.Proofs.Ldap.SearchRequests
import ManagedLdap.Proofs.Filter.Reading
import ManagedLdap.Proofs.Text.Order
import ManagedLdap.Proofs.Attributes.Folded
import ManagedLdap.Proofs.Attributes.Decoded
import ManagedLdap.Proofs.Referral.Addresses
import ManagedLdap.Proofs.Referral.Retry
import ManagedLdap.Proofs.Ldap.Selection
import ManagedLdap.Proofs.Schema.ClassDefinitions
import ManagedLdap.Proofs.Ldap.Exchanges
import ManagedLdap.Proofs.Ldap.Rebinding
import ManagedLdap.Proofs.Ldap.PageReads
import ManagedLdap.Proofs.Ldap.ResponseControls
import ManagedLdap.Proofs.Ldap.Abandonment
import ManagedLdap.Proofs.Ldap.PagedValue
import ManagedLdap.Proofs.Ldap.SearchEncoding
import ManagedLdap.Proofs.Text.Replacement
import ManagedLdap.Proofs.Filter.Escaping
import ManagedLdap.Proofs.Text.Runs
import ManagedLdap.Proofs.Text.Base64
import ManagedLdap.Proofs.Attributes.Received
import ManagedLdap.Proofs.Json.Grammar
import ManagedLdap.Proofs.Json.Reading
import ManagedLdap.Proofs.Json.Writing
import ManagedLdap.Proofs.Config.Fields
import ManagedLdap.Proofs.Config.Serialized
