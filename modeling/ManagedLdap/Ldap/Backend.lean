/-
# ManagedLdap.Ldap.Backend -- directory contexts over a connection as a backend

Which of its operations an `LdapDirContext` carries out for each `Op`, and how it answers
each `Query`.  The two ways to state a search become the plain one before anything is
sent: arguments are put into the filter expression, and attribute values become the
filter that asks for all of them.
-/
import ManagedLdap.Ldap.DirContext
import ManagedLdap.Managed

namespace ManagedLdap.LdapDirContext

set_option autoImplicit false

variable {κ : Type}

/-- Answer a question.  Nothing is asked of the server, so a closed context answers too. -/
def answer (c : LdapDirContext) : Query → Answer
  | .composeName name parent => .text (Name.compose name parent)
  | .nameInNamespace => .text c.base
  | .environment => .environment c.environment
  | .connectControls => .controls c.connectControls
  | .requestControls => .controls c.requestControls
  | .responseControls => .controls c.responseControls

/-- Search with a filter whose places are filled from arguments. -/
def searchWithArgs (name expr : String) (args : List String) (controls : SearchControls) :
    Act κ LdapDirContext SearchCursor :=
  match Filter.substitute expr args with
  | .ok filter => search name filter controls
  | .error fault => Act.fail (.invalidData (fault.message expr))

/-- Search for the children of an entry that have all these attribute values. -/
def searchByAttributes (name : String) (matching : Attributes) (ids : Option (List String)) :
    Act κ LdapDirContext SearchCursor :=
  search name (Filter.ofAttributes matching) (SearchControls.forAttributes ids)

/-- Remove the entry of a name. -/
def destroySubcontext (name : String) : Act κ LdapDirContext Unit := unbind name

/-- Carry out an operation. -/
def perform : Op → Act κ LdapDirContext (Reply LdapDirContext SearchCursor)
  | .bind name attrs => do bind name attrs; return .done
  | .rebind name attrs => do rebind name attrs; return .done
  | .unbind name => do unbind name; return .done
  | .rename name newName => do rename name newName; return .done
  | .lookup name => .context <$> lookup name
  | .list name => .listing <$> list name
  | .getAttributes name ids => .attributes <$> getAttributes name ids
  | .modify name mods => do modify name mods; return .done
  | .createSubcontext name attrs => .context <$> createSubcontext name attrs
  | .destroySubcontext name => do destroySubcontext name; return .done
  | .getSchema name => .context <$> getSchema name
  | .getSchemaClassDefinition name => .definitions <$> getSchemaClassDefinition name
  | .search name filter controls => .entries <$> search name filter controls
  | .searchWithArgs name expr args controls => .entries <$> searchWithArgs name expr args controls
  | .searchByAttributes name matching ids => .entries <$> searchByAttributes name matching ids
  | .addToEnvironment property value => .previous <$> addToEnvironment property value
  | .removeFromEnvironment property => .previous <$> removeFromEnvironment property
  | .extendedOperation request => .extended <$> extendedOperation request
  | .newInstance controls => .context <$> newInstance controls
  | .reconnect controls => do reconnect controls; return .done
  | .setRequestControls controls => do setRequestControls controls; return .done

instance : Backend LdapDirContext SearchCursor where
  offersLdap _ := true
  ask c q := .ok (c.answer q)
  perform := perform
  close := close
  discard := discard
  shown := shown

end ManagedLdap.LdapDirContext
