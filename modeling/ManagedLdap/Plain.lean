/-
# ManagedLdap.Plain -- two backends side by side

A program may hold contexts of two backends at once.  The sum of two backends is a
backend: a context of it is one of either, answers as that one does, and hands out
contexts and cursors of the same side.  `Plain` is the sum this library runs with: contexts
over a connection, and scripted ones.
-/
import ManagedLdap.Ldap.Backend
import ManagedLdap.Script.Context

namespace ManagedLdap

set_option autoImplicit false

variable {κ α γ₁ γ₂ ℓ₁ ℓ₂ : Type}

/-- A call of whichever of two objects is there. -/
def Act.either {τ₁ τ₂ : Type} (left : Act κ τ₁ α) (right : Act κ τ₂ α) : Act κ (τ₁ ⊕ τ₂) α
  | .inl s, w => Act.wrapped .inl s left w
  | .inr s, w => Act.wrapped .inr s right w

instance [Source γ₁ α] [Source γ₂ α] : Source (γ₁ ⊕ γ₂) α where
  hasMore := Act.either Source.hasMore Source.hasMore
  next := Act.either Source.next Source.next
  close := Act.either Source.close Source.close
  discard
    | .inl c => Source.discard c
    | .inr c => Source.discard c
  remaining
    | .inl c => Source.remaining c
    | .inr c => Source.remaining c

instance [Backend ℓ₁ γ₁] [Backend ℓ₂ γ₂] : Backend (ℓ₁ ⊕ ℓ₂) (γ₁ ⊕ γ₂) where
  offersLdap
    | .inl c => Backend.offersLdap c
    | .inr c => Backend.offersLdap c
  ask
    | .inl c => Backend.ask c
    | .inr c => Backend.ask c
  perform op :=
    Act.either (Reply.map .inl .inl <$> Backend.perform op)
      (Reply.map .inr .inr <$> Backend.perform op)
  close := Act.either Backend.close Backend.close
  discard
    | .inl c => Backend.discard c
    | .inr c => Backend.discard c
  shown
    | .inl c => Backend.shown c
    | .inr c => Backend.shown c

/-- A plain context: one over a connection, or a scripted one. -/
abbrev Plain := LdapDirContext ⊕ ScriptedContext

/-- The cursor of a search in a plain context. -/
abbrev PlainCursor := SearchCursor ⊕ ScriptedCursor SearchResult

end ManagedLdap
