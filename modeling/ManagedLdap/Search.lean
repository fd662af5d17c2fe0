/-
# ManagedLdap.Search -- what a search asks for and what it finds
-/
import ManagedLdap.Attributes

namespace ManagedLdap

set_option autoImplicit false

/-- Which entries below the base a search visits. -/
inductive SearchScope where
  | object
  | oneLevel
  | subtree
  deriving DecidableEq, Repr

namespace SearchScope

/-- The written form. -/
def text : SearchScope → String
  | .object => "object"
  | .oneLevel => "onelevel"
  | .subtree => "subtree"

/-- All scopes with their written form. -/
def choices : List (String × SearchScope) :=
  [("object", .object), ("onelevel", .oneLevel), ("subtree", .subtree)]

end SearchScope

/-- The limits and the selection of a search.  A limit of zero or below is none. -/
structure SearchControls where
  scope : SearchScope := .oneLevel
  countLimit : Int := 0
  timeLimitMs : Int := 0
  /-- The attributes to return; all of them when absent. -/
  returnAttributes : Option (List String) := none
  /-- The page size of this search, which overrides every other setting. -/
  pageSize : Option Int := none
  typesOnly : Bool := false
  deriving DecidableEq, Repr

namespace SearchControls

/-- Controls of a scope and nothing else. -/
def ofScope (scope : SearchScope) : SearchControls := { scope := scope }

def withReturnAttributes (c : SearchControls) (names : List String) : SearchControls :=
  { c with returnAttributes := some names }

def withCountLimit (c : SearchControls) (limit : Int) : SearchControls :=
  { c with countLimit := limit }

def withTimeLimitMs (c : SearchControls) (limit : Int) : SearchControls :=
  { c with timeLimitMs := limit }

def withPageSize (c : SearchControls) (size : Int) : SearchControls :=
  { c with pageSize := some size }

/-- The controls of a search by attribute values: one level deep, returning the attributes
that are asked for. -/
def forAttributes (ids : Option (List String)) : SearchControls :=
  match ids with
  | some ids => (ofScope .oneLevel).withReturnAttributes ids
  | none => ofScope .oneLevel

end SearchControls

/-- An entry found by a search. -/
structure SearchResult where
  /-- The name relative to the searched name. -/
  name : String
  fullName : String
  attributes : Attributes
  deriving DecidableEq

/-- A child of an entry with its object class, if it is known. -/
structure NameClassPair where
  name : String
  className : Option String
  deriving DecidableEq, Repr

end ManagedLdap
