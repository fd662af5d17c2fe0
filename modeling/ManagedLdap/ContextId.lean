/-
# ManagedLdap.ContextId -- identifiers of contexts

A context is identified by a UUID.  Four written forms are read: plain digits, groups
with hyphens, the latter in braces, and the latter as a URN; one form is written, groups
of lower-case digits.  The letters of digits and of the URN's scheme may have either case.
-/
import ManagedLdap.Text.Octets

namespace ManagedLdap

set_option autoImplicit false

/-- The identifier of a context: 32 hexadecimal digits. -/
structure ContextId where
  digits : List Nat
  deriving DecidableEq, Repr

namespace ContextId

/-- The digits of a text that holds 32 of them and nothing else. -/
def ofPlain? (cs : List Char) : Option ContextId :=
  if cs.length = 32 then (cs.mapM Text.hexDigit?).map ContextId.mk else none

/-- The digits of a text in groups of 8, 4, 4, 4 and 12 with hyphens between. -/
def ofGroups? (cs : List Char) : Option ContextId :=
  let hyphens := [8, 13, 18, 23].all fun i => cs[i]? == some '-'
  if cs.length = 36 ∧ hyphens then
    ofPlain? (cs.take 8 ++ (cs.drop 9).take 4 ++ (cs.drop 14).take 4 ++ (cs.drop 19).take 4 ++
      cs.drop 24)
  else none

/-- The identifier of a text in any of its written forms. -/
def parse? (s : String) : Option ContextId :=
  let cs := s.toList
  if cs.length = 32 then ofPlain? cs
  else if cs.length = 36 then ofGroups? cs
  else if cs.length = 38 ∧ cs.head? = some '\x7b' ∧ cs.getLast? = some '\x7d' then
    ofGroups? ((cs.drop 1).take 36)
  else if cs.length = 45 ∧ (cs.take 9).map Char.toLower = "urn:uuid:".toList then
    ofGroups? (cs.drop 9)
  else none

/-- The written form. -/
def text (id : ContextId) : String :=
  let ds := id.digits.map Text.hexDigit
  String.ofList (ds.take 8 ++ '-' :: (ds.drop 8).take 4 ++ '-' :: (ds.drop 12).take 4 ++
    '-' :: (ds.drop 16).take 4 ++ '-' :: ds.drop 20)

end ContextId

end ManagedLdap
