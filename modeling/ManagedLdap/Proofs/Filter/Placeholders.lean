/-
# ManagedLdap.Proofs.Filter.Placeholders -- arguments are data, never syntax

A search may be stated as an expression with `{n}` placeholders and the arguments for them.
Whoever chooses the arguments must not be able to choose the shape of the filter, so this
module separates what the expression decides from what the arguments decide.

`pieces` cuts an expression into the characters outside the placeholders and the
placeholders, without a look at any argument.  `fill_eq` says that filling in is a function
of these pieces: whether and how it fails depends on them and on the number of arguments
alone, and what it writes for a placeholder is the escaped argument and nothing else.

Escaped text, in turn, holds no character that ends a value and no stray backslash, and whoever
undoes its escapes finds the argument again.  `arguments_keep_structure` puts both halves together.
-/
import ManagedLdap.Ldap.Backend
import ManagedLdap.Proofs.Filter.Escaping

namespace ManagedLdap.Filter

set_option autoImplicit false

/-! ## Pieces of an expression -/

/-- A piece of an expression. -/
inductive Piece where
  /-- A character outside the placeholders. -/
  | char (c : Char)
  /-- A placeholder, with what stands between its braces. -/
  | hole (content : List Char)
  /-- A brace that no brace closes, with what follows it. -/
  | unclosed (content : List Char)

/-- The pieces of an expression.  Inside a placeholder the first argument holds what has
been read of it, last character first. -/
def pieces : Option (List Char) → List Char → List Piece
  | none, [] => []
  | some seen, [] => [.unclosed seen.reverse]
  | none, c :: cs => if c = '\x7b' then pieces (some []) cs else .char c :: pieces none cs
  | some seen, c :: cs =>
      if c = '\x7d' then .hole seen.reverse :: pieces none cs else pieces (some (c :: seen)) cs

/-- The text of an expression outside its placeholders. -/
def outside (expr : String) : List Char :=
  (pieces none expr.toList).filterMap fun
    | .char c => some c
    | _ => none

namespace Piece

/-- Why a piece cannot be filled in from `given` arguments, whatever they are. -/
def fault? (given : Nat) : Piece → Option Fault
  | .char _ => none
  | .hole content =>
      match index? content with
      | none => some (.malformed (String.ofList content))
      | some i => if i < given then none else some (.missing i given)
  | .unclosed _ => some .unterminated

/-- A piece with `inserted i` in the place of argument `i`. -/
def render (inserted : Nat → List Char) : Piece → List Char
  | .char c => [c]
  | .hole content => ((index? content).map inserted).getD []
  | .unclosed _ => []

end Piece

/-! ## Filling in -/

/-- What is written for argument `i`. -/
def insertion (args : List String) (i : Nat) : List Char :=
  escapeChars (args[i]?.getD "").toList

/-- Filling in fails with the first fault of a piece, or it writes every piece. -/
def filled (args : List String) (ps : List Piece) : Except Fault (List Char) :=
  match ps.findSome? (Piece.fault? args.length) with
  | some fault => .error fault
  | none => .ok (ps.flatMap (Piece.render (insertion args)))

theorem filled_cons_fault {args : List String} {p : Piece} {fault : Fault}
    (h : p.fault? args.length = some fault) (ps : List Piece) :
    filled args (p :: ps) = .error fault := by
  rw [filled, List.findSome?_cons, h]

theorem filled_cons_fine {args : List String} {p : Piece} (h : p.fault? args.length = none)
    (ps : List Piece) :
    filled args (p :: ps) = (filled args ps).map (p.render (insertion args) ++ ·) := by
  rw [filled, filled, List.findSome?_cons, h]
  cases ps.findSome? (Piece.fault? args.length) <;> rfl

/-- Filling in is a matter of the pieces alone. -/
theorem fill_eq (args : List String) (seen : Option (List Char)) (cs : List Char) :
    fill args seen cs = filled args (pieces seen cs) := by
  induction cs generalizing seen with
  | nil => cases seen <;> rfl
  | cons c cs ih =>
      cases seen with
      | none =>
          by_cases opening : c = '\x7b'
          · rw [fill, pieces, if_pos opening, if_pos opening, ih]
          · rw [fill, pieces, if_neg opening, if_neg opening, ih, filled_cons_fine rfl]
            rfl
      | some seen =>
          by_cases closing : c = '\x7d'
          · rw [fill, pieces, if_pos closing, if_pos closing, argument]
            cases index : index? seen.reverse with
            | none =>
                have fault : (Piece.hole seen.reverse).fault? args.length =
                    some (.malformed (String.ofList seen.reverse)) := by
                  rw [Piece.fault?, index]
                rw [filled_cons_fault fault]
            | some i =>
                by_cases within : i < args.length
                · have fine : (Piece.hole seen.reverse).fault? args.length = none := by
                    simp only [Piece.fault?, index, if_pos within]
                  rw [filled_cons_fine fine, ← ih]
                  simp only [List.getElem?_eq_getElem within, Piece.render, index, insertion,
                    Option.map_some, Option.getD_some]
                · have fault : (Piece.hole seen.reverse).fault? args.length =
                      some (.missing i args.length) := by
                    simp only [Piece.fault?, index, if_neg within]
                  have beyond : args[i]? = none := List.getElem?_eq_none (by omega)
                  rw [filled_cons_fault fault]
                  simp only [beyond]
          · rw [fill, pieces, if_neg closing, if_neg closing, ih]

theorem substitute_eq (expr : String) (args : List String) :
    substitute expr args =
      match (pieces none expr.toList).findSome? (Piece.fault? args.length) with
      | some fault => .error fault
      | none => .ok (String.ofList
          ((pieces none expr.toList).flatMap (Piece.render (insertion args)))) := by
  rw [substitute, fill_eq, filled]
  cases (pieces none expr.toList).findSome? (Piece.fault? args.length) <;> rfl

/-! ## What arguments cannot do -/

/-- A filter that was made from an expression by putting arguments, and only their text,
in the place of its placeholders. -/
structure FilledIn (expr : String) (args : List String) (filter : String) : Prop where
  /-- The characters that end values are those of the text outside the placeholders. -/
  skeleton : filter.toList.filter endsValue = (outside expr).filter endsValue
  /-- The filter is the expression with a text for each placeholder; that text has no stray
  backslash, and with its escapes undone it is the argument. -/
  inserted : ∃ text : Nat → List Char,
    filter.toList = (pieces none expr.toList).flatMap (Piece.render text) ∧
    ∀ content, Piece.hole content ∈ pieces none expr.toList →
      ∃ i arg, index? content = some i ∧ args[i]? = some arg ∧
        EscapesOnly (text i) ∧ unescaped? (text i) = some arg

/-- Rendered pieces have the skeleton of the characters outside the placeholders. -/
theorem filter_render {text : Nat → List Char} (h : ∀ i, (text i).filter endsValue = [])
    (ps : List Piece) :
    (ps.flatMap (Piece.render text)).filter endsValue =
      (ps.filterMap fun | .char c => some c | _ => none).filter endsValue := by
  induction ps with
  | nil => rfl
  | cons p ps ih =>
      rw [List.flatMap_cons, List.filter_append, ih]
      cases p with
      | char c => exact (List.filter_append [c] _).symm
      | hole content =>
          have nothing : (Piece.render text (.hole content)).filter endsValue = [] := by
            rw [Piece.render]
            cases index? content with
            | none => rfl
            | some i => exact h i
          rw [nothing]
          rfl
      | unclosed content => rfl

/-- The index of a placeholder without a fault is that of an argument. -/
theorem argument_of_fine {args : List String} {content : List Char}
    (h : (Piece.hole content).fault? args.length = none) :
    ∃ i arg, index? content = some i ∧ args[i]? = some arg := by
  rw [Piece.fault?] at h
  cases index : index? content with
  | none => simp [index] at h
  | some i =>
      have within : i < args.length := by
        by_cases within : i < args.length
        · exact within
        · simp [index, within] at h
      exact ⟨i, args[i], rfl, List.getElem?_eq_getElem within⟩

/-- Without a fault the arguments are filled in. -/
theorem substitute_fine {expr : String} {args : List String}
    (fine : (pieces none expr.toList).findSome? (Piece.fault? args.length) = none) :
    ∃ filter, substitute expr args = .ok filter ∧ FilledIn expr args filter := by
  have filled : substitute expr args = .ok (String.ofList
      ((pieces none expr.toList).flatMap (Piece.render (insertion args)))) := by
    rw [substitute_eq, fine]
  refine ⟨_, filled, ?_, insertion args, String.toList_ofList, ?_⟩
  · rw [String.toList_ofList]
    exact filter_render (fun i => filter_escapeChars _) _
  · intro content member
    have no_fault : (Piece.hole content).fault? args.length = none :=
      List.findSome?_eq_none_iff.mp fine _ member
    obtain ⟨i, arg, index, given⟩ := argument_of_fine no_fault
    have written : insertion args i = escapeChars arg.toList := by
      rw [insertion, given, Option.getD_some]
    refine ⟨i, arg, index, given, ?_, ?_⟩
    · rw [written]
      exact escapesOnly_escapeChars arg.toList
    · rw [written]
      exact unescaped?_escape arg

/-- Two lists of as many arguments fill in an expression alike: both fail with one fault,
before anything is sent, or both give filters of the structure of the expression, which are
what is then searched for. -/
theorem arguments_keep_structure {κ : Type} (expr : String) (args args' : List String)
    (same : args.length = args'.length) :
    (∃ fault, substitute expr args = .error fault ∧ substitute expr args' = .error fault ∧
      ∀ name controls,
        (LdapDirContext.searchWithArgs name expr args controls : Act κ _ _) =
          Act.fail (.invalidData (fault.message expr)) ∧
        (LdapDirContext.searchWithArgs name expr args' controls : Act κ _ _) =
          Act.fail (.invalidData (fault.message expr))) ∨
    (∃ filter filter',
      substitute expr args = .ok filter ∧ FilledIn expr args filter ∧
      substitute expr args' = .ok filter' ∧ FilledIn expr args' filter' ∧
      ∀ name controls,
        (LdapDirContext.searchWithArgs name expr args controls : Act κ _ _) =
          LdapDirContext.search name filter controls ∧
        (LdapDirContext.searchWithArgs name expr args' controls : Act κ _ _) =
          LdapDirContext.search name filter' controls) := by
  cases verdict : (pieces none expr.toList).findSome? (Piece.fault? args.length) with
  | some fault =>
      have first : substitute expr args = .error fault := by rw [substitute_eq, verdict]
      have second : substitute expr args' = .error fault := by rw [substitute_eq, ← same, verdict]
      refine .inl ⟨fault, first, second, ?_⟩
      intro name controls
      constructor
      · rw [LdapDirContext.searchWithArgs, first]
      · rw [LdapDirContext.searchWithArgs, second]
  | none =>
      have verdict' : (pieces none expr.toList).findSome? (Piece.fault? args'.length) = none := by
        rw [← same, verdict]
      obtain ⟨filter, first, sound⟩ := substitute_fine verdict
      obtain ⟨filter', second, sound'⟩ := substitute_fine verdict'
      refine .inr ⟨filter, filter', first, sound, second, sound', ?_⟩
      intro name controls
      constructor
      · rw [LdapDirContext.searchWithArgs, first]
      · rw [LdapDirContext.searchWithArgs, second]

/-- Two arguments for a user name, one of them an attempt to widen the search: both filters
ask for one user name. -/
theorem arguments_keep_structure_of_name :
    ["*)(uid=*"].length = ["mallory"].length ∧
    ∃ filter filter',
      substitute "(uid=\x7b0\x7d)" ["*)(uid=*"] = .ok filter ∧
      FilledIn "(uid=\x7b0\x7d)" ["*)(uid=*"] filter ∧
      substitute "(uid=\x7b0\x7d)" ["mallory"] = .ok filter' ∧
      FilledIn "(uid=\x7b0\x7d)" ["mallory"] filter' := by
  refine ⟨rfl, ?_⟩
  obtain ⟨fault, failed, -⟩ | ⟨filter, filter', first, sound, second, sound', -⟩ :=
    arguments_keep_structure (κ := Unit) "(uid=\x7b0\x7d)" ["*)(uid=*"] ["mallory"] rfl
  · have succeeds : substitute "(uid=\x7b0\x7d)" ["*)(uid=*"] =
        .ok "(uid=\\2a\\29\\28uid=\\2a)" := by rfl
    rw [succeeds] at failed
    cases failed
  · exact ⟨filter, filter', first, sound, second, sound'⟩

end ManagedLdap.Filter
