/-
# ManagedLdap.Script.Context -- contexts whose answers are scripted

A scripted context records every operation with its arguments and the socket factory in
effect, then fails as its script says or answers in a fixed manner: contexts derived from
it are copies of it under a longer name.  Questions are answered without a record.
-/
import ManagedLdap.Managed
import ManagedLdap.Script.Cursor

namespace ManagedLdap

set_option autoImplicit false

/-- A context whose answers are scripted. -/
structure ScriptedContext where
  name : String
  /-- Whether it has the LDAP capability. -/
  ldap : Bool := false
  environment : Environment := OrderedMap.empty
  /-- What its searches find. -/
  entries : List (Except Failure SearchResult) := []
  /-- How closing the cursors of its searches fails. -/
  cursorFailure : Option Failure := none
  children : List NameClassPair := []
  connectControls : List Control := []
  requestControls : List Control := []
  responseControls : List Control := []
  /-- How its operations fail, by the name of the operation; `*` stands for all others. -/
  failures : OrderedMap Failure := OrderedMap.empty

namespace Query

/-- The name by which a script refers to a question. -/
def key : Query → String
  | .composeName .. => "compose_name"
  | .nameInNamespace => "name_in_namespace"
  | .environment => "environment"
  | .connectControls => "connect_controls"
  | .requestControls => "request_controls"
  | .responseControls => "response_controls"

end Query

namespace Op

/-- The name by which a script refers to an operation. -/
def key : Op → String
  | .bind .. => "bind"
  | .rebind .. => "rebind"
  | .unbind _ => "unbind"
  | .rename .. => "rename"
  | .lookup _ => "lookup"
  | .list _ => "list"
  | .getAttributes .. => "get_attributes"
  | .modify .. => "modify_attributes"
  | .createSubcontext .. => "create_subcontext"
  | .destroySubcontext _ => "destroy_subcontext"
  | .getSchema _ => "get_schema"
  | .getSchemaClassDefinition _ => "get_schema_class_definition"
  | .search .. => "search"
  | .searchWithArgs .. => "search_with_args"
  | .searchByAttributes .. => "search_by_attributes"
  | .addToEnvironment .. => "add_to_environment"
  | .removeFromEnvironment _ => "remove_from_environment"
  | .extendedOperation _ => "extended_operation"
  | .newInstance _ => "new_instance"
  | .reconnect _ => "reconnect"
  | .setRequestControls _ => "set_request_controls"

end Op

namespace ScriptedContext

variable {κ : Type}

/-- How an operation fails, if it does. -/
def failure? (c : ScriptedContext) (key : String) : Option Failure :=
  (c.failures.get? key).orElse fun _ => c.failures.get? "*"

/-- Fail as the script says. -/
def obey (c : ScriptedContext) (key : String) : Except Failure Unit :=
  match c.failure? key with
  | some failure => .error failure
  | none => .ok ()

/-- The answer to a question that does not fail. -/
def answer (c : ScriptedContext) : Query → Answer
  | .composeName name parent => .text (name ++ "+" ++ parent)
  | .nameInNamespace => .text c.name
  | .environment => .environment c.environment
  | .connectControls => .controls c.connectControls
  | .requestControls => .controls c.requestControls
  | .responseControls => .controls c.responseControls

def ask (c : ScriptedContext) (q : Query) : Except Failure Answer :=
  (c.obey q.key).map fun _ => c.answer q

/-- A copy under a longer name. -/
def copy (c : ScriptedContext) (suffix : String) : ScriptedContext :=
  { c with name := c.name ++ "/" ++ suffix }

/-- The cursor of a search. -/
def cursor (c : ScriptedContext) : ScriptedCursor SearchResult := ⟨c.entries, c.cursorFailure⟩

/-- What an operation that does not fail changes. -/
def changed (c : ScriptedContext) : Op → ScriptedContext
  | .addToEnvironment property value =>
      { c with environment := c.environment.insert property value }
  | .removeFromEnvironment property => { c with environment := c.environment.erase property }
  | .reconnect controls => { c with connectControls := controls }
  | .setRequestControls controls => { c with requestControls := controls }
  | _ => c

/-- What an operation that does not fail hands back. -/
def reply (c : ScriptedContext) : Op → Reply ScriptedContext (ScriptedCursor SearchResult)
  | .lookup name => .context (c.copy name)
  | .createSubcontext name _ => .context (c.copy name)
  | .getSchema _ => .context (c.copy "schema")
  | .newInstance controls => .context { c.copy "instance" with requestControls := controls }
  | .list _ => .listing c.children
  | .getAttributes name _ => .attributes (Attributes.empty.add "cn" name)
  | .getSchemaClassDefinition name => .definitions ["definition of " ++ name]
  | .search .. => .entries c.cursor
  | .searchWithArgs .. => .entries c.cursor
  | .searchByAttributes .. => .entries c.cursor
  | .addToEnvironment property _ => .previous (c.environment.get? property)
  | .removeFromEnvironment property => .previous (c.environment.get? property)
  | .extendedOperation request => .extended ⟨some request.oid, request.value⟩
  | _ => .done

/-- Whether an operation leaves a record. -/
def isRecorded : Op → Bool
  | .addToEnvironment .. => false
  | .removeFromEnvironment _ => false
  | _ => true

/-- Carry out an operation as it stands. -/
def carryOut (op : Op) :
    Act κ ScriptedContext (Reply ScriptedContext (ScriptedCursor SearchResult)) := do
  let c ← Act.self
  if isRecorded op then Act.record (.called c.name op)
  Act.ofExcept (c.obey op.key)
  Act.update fun c => c.changed op
  return c.reply op

/-- Carry out an operation.  The two ways to state a search become the plain one. -/
def perform (op : Op) :
    Act κ ScriptedContext (Reply ScriptedContext (ScriptedCursor SearchResult)) :=
  match op with
  | .searchWithArgs name expr args controls =>
      match Filter.substitute expr args with
      | .ok filter => carryOut (.search name filter controls)
      | .error fault => Act.fail (.invalidData (fault.message expr))
  | .searchByAttributes name matching ids => carryOut (attributeSearch name matching ids)
  | op => carryOut op

def close : Act κ ScriptedContext Unit := do
  let c ← Act.self
  Act.record (.closed c.name)
  Act.ofExcept (c.obey "close")

def shown (c : ScriptedContext) : Shown :=
  .record "ScriptedContext" [("name", .text c.name)] true

instance : Backend ScriptedContext (ScriptedCursor SearchResult) where
  offersLdap c := c.ldap
  ask := ask
  perform := perform
  close := close
  discard _ w := w
  shown := shown

end ScriptedContext

end ManagedLdap
