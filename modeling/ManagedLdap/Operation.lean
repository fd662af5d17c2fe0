/-
# ManagedLdap.Operation -- what a directory context can be asked

A `Query` only looks at a context: it sends nothing and changes nothing.  An `Op` acts:
it may send requests, change the context, hand out further contexts and cursors.  Four
operations and three queries belong to the LDAP capability, which a context may lack;
`ldapName?` says which ones and under what name they are refused.  Closing a context is
neither: what it does depends on who holds the context.
-/
import ManagedLdap.Control
import ManagedLdap.Environment
import ManagedLdap.Filter.Basic
import ManagedLdap.Search

namespace ManagedLdap

set_option autoImplicit false

/-! ## Questions -/

/-- A question that a context answers from what it holds. -/
inductive Query where
  | composeName (name parent : String)
  | nameInNamespace
  | environment
  | connectControls
  | requestControls
  | responseControls
  deriving DecidableEq, Repr

namespace Query

/-- The name of a query of the LDAP capability. -/
def ldapName? : Query → Option String
  | .connectControls => some "connect_controls"
  | .requestControls => some "request_controls"
  | .responseControls => some "response_controls"
  | _ => none

end Query

/-- The answer to a query. -/
inductive Answer where
  | text (s : String)
  | environment (env : Environment)
  | controls (cs : List Control)
  deriving DecidableEq

/-! ## Operations -/

/-- An operation on a context. -/
inductive Op where
  | bind (name : String) (attrs : Attributes)
  | rebind (name : String) (attrs : Attributes)
  | unbind (name : String)
  | rename (name newName : String)
  | lookup (name : String)
  | list (name : String)
  | getAttributes (name : String) (ids : Option (List String))
  | modify (name : String) (mods : List Modification)
  | createSubcontext (name : String) (attrs : Attributes)
  | destroySubcontext (name : String)
  | getSchema (name : String)
  | getSchemaClassDefinition (name : String)
  | search (name filter : String) (controls : SearchControls)
  | searchWithArgs (name expr : String) (args : List String) (controls : SearchControls)
  | searchByAttributes (name : String) (matching : Attributes) (ids : Option (List String))
  | addToEnvironment (property value : String)
  | removeFromEnvironment (property : String)
  | extendedOperation (request : ExtendedRequest)
  | newInstance (controls : List Control)
  | reconnect (controls : List Control)
  | setRequestControls (controls : List Control)
  deriving DecidableEq

namespace Op

/-- The name of an operation of the LDAP capability. -/
def ldapName? : Op → Option String
  | .extendedOperation _ => some "extended_operation"
  | .newInstance _ => some "new_instance"
  | .reconnect _ => some "reconnect"
  | .setRequestControls _ => some "set_request_controls"
  | _ => none

/-- Whether an operation opens a connection. -/
def opensConnection : Op → Bool
  | .reconnect _ => true
  | _ => false

end Op

/-- The search for the children of an entry that have all these attribute values. -/
def attributeSearch (name : String) (matching : Attributes) (ids : Option (List String)) : Op :=
  .search name (Filter.ofAttributes matching) (SearchControls.forAttributes ids)

/-- What an operation hands back.  `ℓ` is the type of the contexts and `γ` that of the
search cursors it hands out. -/
inductive Reply (ℓ γ : Type) where
  | done
  | context (c : ℓ)
  /-- The children of an entry, all of them at hand. -/
  | listing (items : List NameClassPair)
  | attributes (attrs : Attributes)
  | definitions (texts : List String)
  | entries (cursor : γ)
  /-- The former value of a property. -/
  | previous (value : Option String)
  | extended (response : ExtendedResponse)

namespace Reply

/-- The same reply with its contexts and cursors wrapped. -/
def map {ℓ γ ℓ' γ' : Type} (f : ℓ → ℓ') (g : γ → γ') : Reply ℓ γ → Reply ℓ' γ'
  | .done => .done
  | .context c => .context (f c)
  | .listing items => .listing items
  | .attributes attrs => .attributes attrs
  | .definitions texts => .definitions texts
  | .entries cursor => .entries (g cursor)
  | .previous value => .previous value
  | .extended response => .extended response

end Reply

end ManagedLdap
