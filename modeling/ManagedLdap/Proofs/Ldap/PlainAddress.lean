/-
# ManagedLdap.Proofs.Ldap.PlainAddress -- addresses that are plain, and texts that look it

Whether an address is a plain one shows in its scheme, which has lost the blanks before it and
its case by then.  A text may be the address of a plain connection, then, without starting like
one.  The addresses that the program puts together itself start as they should: that of a
configuration (`LdapConfig.spelt_of_plain`) and that of a referral
(`LdapReferral.spelt_of_plain`).
-/
import ManagedLdap.Referral.Connect

namespace ManagedLdap

set_option autoImplicit false

namespace Url

/-- Whether a text starts like a plain address. -/
def spellsPlain (text : String) : Bool := "ldap://".toList.isPrefixOf text.toList

/-- The client takes a text for the address of a plain connection. -/
def IsPlain (text : String) : Prop := ∃ u, parse text = .ok u ∧ u.scheme = "ldap"

/-! ### The scheme of an address -/

theorem afterSlashes_scheme {scheme : String} {kind : SchemeKind} {cs : List Char} {u : Url}
    (parsed : afterSlashes scheme kind cs = .ok u) : u.scheme = scheme := by
  simp only [afterSlashes, bind, Except.bind, pure, Except.pure, throw, throwThe,
    MonadExceptOf.throw] at parsed
  repeat' split at parsed
  all_goals cases parsed <;> rfl

theorem fileAfterSlashes_scheme {scheme : String} {cs : List Char} {u : Url}
    (parsed : fileAfterSlashes scheme cs = .ok u) : u.scheme = scheme := by
  simp only [fileAfterSlashes, bind, Except.bind, pure, Except.pure] at parsed
  repeat' split at parsed
  all_goals cases parsed <;> rfl

theorem afterScheme_scheme {scheme : String} {cs : List Char} {u : Url}
    (parsed : afterScheme scheme cs = .ok u) : u.scheme = scheme := by
  simp only [afterScheme] at parsed
  repeat' split at parsed
  all_goals first
    | exact afterSlashes_scheme parsed
    | exact fileAfterSlashes_scheme parsed
    | (cases parsed; rfl)

theorem isMargin_of_isIgnored {c : Char} (ignored : isIgnored c = true) : isMargin c = true := by
  simp only [isIgnored, Bool.or_eq_true, beq_iff_eq] at ignored
  rcases ignored with (rfl | rfl) | rfl <;> rfl

theorem dropWhile_isMargin {cs : List Char} (counts : ∀ c ∈ cs, isMargin c = false) :
    cs.dropWhile isMargin = cs := by
  cases cs with
  | nil => rfl
  | cons c cs => simp [counts c List.mem_cons_self]

/-- What a text starts with stays where it is, as far as it counts. -/
theorem significant_append (start : List Char) (first : start ≠ [])
    (counts : ∀ c ∈ start, isMargin c = false) (rest : List Char) :
    ∃ rest', significant (start ++ rest) = start ++ rest' := by
  have left : (start ++ rest).dropWhile isMargin = start ++ rest := by
    rw [List.dropWhile_append, dropWhile_isMargin counts]
    simp [first]
  have right : ∃ rest',
      (((start ++ rest).reverse.dropWhile isMargin).reverse) = start ++ rest' := by
    have counts' : ∀ c ∈ start.reverse, isMargin c = false :=
      fun c among => counts c (List.mem_reverse.1 among)
    rw [List.reverse_append, List.dropWhile_append, dropWhile_isMargin counts']
    split
    · exact ⟨[], by simp⟩
    · exact ⟨(rest.reverse.dropWhile isMargin).reverse, by simp⟩
  obtain ⟨rest', right⟩ := right
  have solid : start.filter (fun c => !isIgnored c) = start := by
    refine List.filter_eq_self.2 fun c among => ?_
    cases ignored : isIgnored c with
    | false => rfl
    | true => exact absurd (isMargin_of_isIgnored ignored) (by simp [counts c among])
  refine ⟨rest'.filter fun c => !isIgnored c, ?_⟩
  rw [significant, left, right, List.filter_append, solid]

/-- The scheme of an address that is spelt as one to encrypt from the start. -/
theorem parse_ldaps {text : String} {u : Url} (spelt : "ldaps://".toList.isPrefixOf text.toList)
    (parsed : parse text = .ok u) : u.scheme = "ldaps" := by
  obtain ⟨rest, chars⟩ := List.isPrefixOf_iff_prefix.1 spelt
  have counts : "ldaps://".toList.all (fun c => !isMargin c) := by decide
  obtain ⟨rest', signs⟩ := significant_append "ldaps://".toList (by decide)
    (fun c among => by simpa using List.all_eq_true.1 counts c among) rest
  have read : readScheme ("ldaps://".toList ++ rest') =
      some ("ldaps".toList, '/' :: '/' :: rest') := rfl
  rw [parse, ← chars, signs, read] at parsed
  exact (afterScheme_scheme parsed).trans (String.ofList_toList)

/-- An address that is put together from one of the two schemes of a directory is spelt as a
plain one if it is plain. -/
theorem spellsPlain_of_isPlain {text scheme : String} (rest : String)
    (known : scheme = "ldap" ∨ scheme = "ldaps") (made : text = scheme ++ "://" ++ rest)
    (plain : IsPlain text) : spellsPlain text = true := by
  have starts : (scheme.toList ++ "://".toList).isPrefixOf text.toList := by
    rw [List.isPrefixOf_iff_prefix, made, String.toList_append, String.toList_append]
    exact List.prefix_append _ _
  rcases known with rfl | rfl
  · exact starts
  · obtain ⟨u, parsed, isLdap⟩ := plain
    exact absurd (isLdap.symm.trans (parse_ldaps starts parsed)) (by decide)

end Url

theorem LdapConfig.spelt_of_plain (config : LdapConfig) (plain : Url.IsPlain config.url) :
    Url.spellsPlain config.url = true := by
  have known : (if config.useSsl then "ldaps" else "ldap") = "ldap" ∨
      (if config.useSsl then "ldaps" else "ldap") = "ldaps" := by
    cases config.useSsl
    · exact .inl rfl
    · exact .inr rfl
  refine Url.spellsPlain_of_isPlain (config.host ++ ":" ++ toString config.port) known ?_ plain
  simp only [LdapConfig.url, String.append_assoc]

/-- The server of a referral address is put together from the scheme, the host and the port. -/
theorem ReferralTarget.serverUrl_eq {text : String} {target : ReferralTarget}
    (parsed : ReferralTarget.parse text = .ok target) :
    ∃ scheme rest, (scheme = "ldap" ∨ scheme = "ldaps") ∧
      target.serverUrl = scheme ++ "://" ++ rest := by
  unfold ReferralTarget.parse at parsed
  split at parsed
  · cases parsed
  next url _ =>
  split at parsed
  · cases parsed
  next port known =>
  split at parsed
  · cases parsed
  next host _ =>
  dsimp only at parsed
  split at parsed
  · cases parsed
  obtain rfl := Except.ok.inj parsed
  refine ⟨url.scheme, host ++ ":" ++ toString (url.port.getD port), ?_, ?_⟩
  · by_cases isLdap : url.scheme = "ldap"
    · exact .inl isLdap
    · by_cases isLdaps : url.scheme = "ldaps"
      · exact .inr isLdaps
      · simp [ReferralTarget.defaultPort?, isLdap, isLdaps] at known
  · simp only [String.append_assoc]

/-- The address that following a referral connects to. -/
theorem LdapReferral.spelt_of_plain {r : LdapReferral} {target : ReferralTarget}
    (destined : r.destination = .ok target) (plain : Url.IsPlain target.serverUrl) :
    Url.spellsPlain target.serverUrl = true := by
  unfold LdapReferral.destination at destined
  split at destined
  · cases destined
  split at destined
  · cases destined
  next parsed =>
  obtain ⟨scheme, rest, known, made⟩ := ReferralTarget.serverUrl_eq parsed
  obtain rfl := Except.ok.inj destined
  refine Url.spellsPlain_of_isPlain rest known ?_ plain
  rw [← made]
  split <;> rfl

end ManagedLdap
