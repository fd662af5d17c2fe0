/-
# ManagedLdap.Proofs.Referral.Hosts -- following a referral never panics

An address without a host cannot be connected to at all: trying to is a panic, which no caller
can catch.  The target of a referral is refused when it names no host, but what is connected to is
an address that was put together from the parts of the first one, and that is read again.  This
module shows that it names a host as well, whatever the host is: an opaque name with its escapes,
or an IPv6 address between brackets.

A host ends where the authority does, so what matters is that none of its characters ends the
authority or parts user information from it (`hostPart_of_opaqueHost`).  The colon of the port
follows, so the address has an authority that holds something (`parse_host`).
-/
import ManagedLdap.Proofs.Ldap.Opening
import ManagedLdap.Proofs.Referral.Addresses
import ManagedLdap.Referral.Connect

namespace ManagedLdap

set_option autoImplicit false

namespace Url

/-! ## Characters of a host -/

/-- A character that is never stripped, ends no authority and follows no user information. -/
structure HostPart (c : Char) : Prop where
  counts : isMargin c = false
  goesOn : endsAuthority .general c = false
  notAt : c ≠ '@'

instance (c : Char) : Decidable (HostPart c) :=
  decidable_of_iff (isMargin c = false ∧ endsAuthority .general c = false ∧ c ≠ '@')
    ⟨fun ⟨counts, goesOn, notAt⟩ => ⟨counts, goesOn, notAt⟩,
      fun ⟨counts, goesOn, notAt⟩ => ⟨counts, goesOn, notAt⟩⟩

theorem hostPart_of_inert {c : Char} (inert : Inert c) : HostPart c := by
  refine ⟨inert.counts, endsAuthority_of_inert inert, ?_⟩
  rintro rfl
  cases inert.allowed

/-- What an opaque host may hold and need not escape. -/
theorem hostPart_of_allowed {c : Char} (allowed : isForbiddenInHost c = false)
    (printed : isControl c = false) : HostPart c := by
  have passes : ∀ d, isForbiddenInHost d = true → c ≠ d := fun d forbidden same =>
    absurd forbidden (by rw [← same, allowed]; exact Bool.false_ne_true)
  have blank : c.toNat ≠ 0x20 := fun value => passes ' ' rfl (Char.toNat_inj.1 value)
  have low : ¬ c.toNat < 0x20 := by
    intro low
    rw [isControl, decide_eq_true low] at printed
    cases printed
  refine ⟨?_, ?_, passes '@' rfl⟩
  · rw [isMargin, decide_eq_false_iff_not]
    omega
  · simp [endsAuthority, SchemeKind.isSpecial, passes '/' rfl, passes '?' rfl, passes '#' rfl]

theorem hostPart_digits {c : Char} (n : Nat) (digit : c ∈ Nat.toDigits 16 n) : HostPart c := by
  have table : ∀ d < 16, HostPart (Nat.digitChar d) := by decide
  induction n using Nat.strongRecOn with
  | ind n ih =>
      rw [Nat.toDigits_eq_if (by decide)] at digit
      split at digit
      · next small =>
        obtain rfl := List.mem_singleton.1 digit
        exact table n small
      · next large =>
        rcases List.mem_append.1 digit with earlier | last
        · exact ih (n / 16) (Nat.div_lt_self (by omega) (by decide)) earlier
        · obtain rfl := List.mem_singleton.1 last
          exact table (n % 16) (Nat.mod_lt n (by decide))

/-- What stands in joined texts stands in one of them or between them. -/
theorem mem_of_mem_intercalate {sep : List Char} {parts : List (List Char)} {c : Char}
    (among : c ∈ sep.intercalate parts) : c ∈ sep ∨ ∃ part ∈ parts, c ∈ part := by
  induction parts with
  | nil => cases among
  | cons part parts ih =>
      cases parts with
      | nil =>
          rw [List.intercalate_singleton] at among
          exact .inr ⟨part, List.mem_cons_self, among⟩
      | cons next parts =>
          rw [List.intercalate_cons_cons, List.mem_append, List.mem_append] at among
          rcases among with (here | between) | later
          · exact .inr ⟨part, List.mem_cons_self, here⟩
          · exact .inl between
          · refine (ih later).imp_right ?_
            rintro ⟨part, listed, within⟩
            exact ⟨part, List.mem_cons_of_mem _ listed, within⟩

theorem hostPart_pieceText (pieces : List Nat) : ∀ c ∈ (pieceText pieces).toList, HostPart c := by
  intro c among
  rw [pieceText, String.toList_intercalate] at among
  rcases mem_of_mem_intercalate among with colon | ⟨part, listed, within⟩
  · obtain rfl := List.mem_singleton.1 colon
    decide
  · rw [List.map_map] at listed
    obtain ⟨n, -, rfl⟩ := List.mem_map.1 listed
    rw [Function.comp_apply, String.toList_ofList] at within
    exact hostPart_digits n within

theorem hostPart_ipv6Text (pieces : List Nat) : ∀ c ∈ (ipv6Text pieces).toList, HostPart c := by
  rw [ipv6Text]
  dsimp only
  split
  · rw [String.toList_append, String.toList_append]
    refine List.forall_mem_append.2 ⟨List.forall_mem_append.2 ⟨?_, ?_⟩, ?_⟩
    · exact hostPart_pieceText _
    · exact List.all_iff_forall_prop.1 (by decide)
    · exact hostPart_pieceText _
  · exact hostPart_pieceText _

/-- Escapes are made of an ASCII sign and digits. -/
theorem hostPart_percentOctet (b : UInt8) : ∀ c ∈ Text.percentOctet b, HostPart c := by
  have digit : ∀ n < 16, HostPart (Text.upperHexDigit n) := by decide
  refine List.forall_mem_cons.2 ⟨by decide, List.forall_mem_cons.2 ⟨?_, List.forall_mem_cons.2
    ⟨?_, List.forall_mem_nil _⟩⟩⟩
  · exact digit _ (Text.high_lt b)
  · exact digit _ (Text.low_lt b)

/-- **A host holds nothing that could end it.** -/
theorem hostPart_of_opaqueHost {cs : List Char} {host : String} (read : opaqueHost cs = .ok host) :
    ∀ c ∈ host.toList, HostPart c := by
  unfold opaqueHost at read
  split at read
  · unfold bracketHost at read
    split at read
    · split at read
      · next pieces _ =>
        obtain rfl := Except.ok.inj read
        rw [String.toList_append, String.toList_append]
        refine List.forall_mem_append.2 ⟨List.forall_mem_append.2 ⟨?_, ?_⟩, ?_⟩
        · exact List.forall_mem_singleton.2 (by decide)
        · exact hostPart_ipv6Text pieces
        · exact List.forall_mem_singleton.2 (by decide)
      · cases read
    · cases read
  · split at read
    · cases read
    · next forbidden =>
      obtain rfl := Except.ok.inj read
      rw [Bool.not_eq_true, List.any_eq_false] at forbidden
      intro c among
      rw [Text.percentEncode, String.toList_ofList, String.toList_ofList] at among
      obtain ⟨d, within, written⟩ := List.mem_flatMap.1 among
      split at written
      · obtain ⟨b, -, escape⟩ := List.mem_flatMap.1 written
        exact hostPart_percentOctet b c escape
      · next printed =>
        obtain rfl := List.mem_singleton.1 written
        exact hostPart_of_allowed (Bool.eq_false_iff.2 (forbidden c within))
          (Bool.eq_false_iff.2 printed)

/-- Only nothing is read as an empty host. -/
theorem eq_nil_of_opaqueHost {cs : List Char} (read : opaqueHost cs = .ok "") : cs = [] := by
  unfold opaqueHost at read
  split at read
  · unfold bracketHost at read
    split at read
    · split at read
      · next pieces _ =>
        have opening := congrArg String.toList (Except.ok.inj read)
        rw [String.toList_append, String.toList_append] at opening
        cases opening
      · cases read
    · cases read
  · split at read
    · cases read
    · have written := congrArg String.toList (Except.ok.inj read)
      rw [Text.percentEncode, String.toList_ofList, String.toList_ofList] at written
      cases cs with
      | nil => rfl
      | cons c cs =>
          obtain ⟨first, -⟩ := List.append_eq_nil_iff.1 written
          dsimp only at first
          split at first
          · have octets : String.utf8EncodeChar c ≠ [] := by
              rw [← List.length_pos_iff, String.length_utf8EncodeChar]
              exact c.utf8Size_pos
            obtain ⟨b, rest, written⟩ := List.exists_cons_of_ne_nil octets
            rw [written] at first
            cases first
          · cases first

/-! ## Addresses with a host -/

/-- Only nothing has neither a host nor a port. -/
theorem eq_nil_of_splitPort {cs : List Char} (parted : splitPort false cs = ([], none)) :
    cs = [] := by
  cases cs with
  | nil => rfl
  | cons c cs =>
      rw [splitPort] at parted
      split at parted
      · cases parted
      · cases parted

/-- The host part of an authority and its port part. -/
def hostAndPort (authority : List Char) : List Char × Option (List Char) :=
  splitPort false ((splitUser authority).getD ([], authority)).2

/-- What an address is read as: its host is that of the authority, and a port needs a host. -/
theorem afterSlashes_parts {scheme : String} {cs : List Char} {u : Url}
    (read : afterSlashes scheme .general cs = .ok u) :
    let parts := hostAndPort (cs.takeWhile fun c => !endsAuthority .general c)
    ∃ host, opaqueHost parts.1 = .ok host ∧ u.host = (if host.isEmpty then none else some host) ∧
      (host.isEmpty = true → parts.2 = none) := by
  simp only [afterSlashes, bind, Except.bind, pure, Except.pure, throw, throwThe,
    MonadExceptOf.throw, readHost] at read
  intro parts
  split at read
  · cases read
  split at read
  · cases read
  next host hosted =>
  split at read
  · cases read
  next needs =>
  refine ⟨host, hosted, ?_, fun empty => Option.not_isSome_iff_eq_none.1 fun given =>
    needs ⟨empty, given⟩⟩
  split at read
  · split at read
    · cases read
    split at read
    · cases read
    · rw [← Except.ok.inj read]
  · split at read
    · cases read
    · rw [← Except.ok.inj read]

/-- Between the slashes of an address there is a host, unless there is nothing or only user
information. -/
theorem afterSlashes_host {scheme : String} {cs : List Char} {u : Url}
    (read : afterSlashes scheme .general cs = .ok u)
    (something : cs.takeWhile (fun c => !endsAuthority .general c) ≠ [])
    (noUser : '@' ∉ cs.takeWhile (fun c => !endsAuthority .general c)) :
    ∃ host, u.host = some host := by
  obtain ⟨host, hosted, named, portless⟩ := afterSlashes_parts read
  have alone : splitUser (cs.takeWhile fun c => !endsAuthority .general c) = none := by
    rw [splitUser, Text.splitOn_of_notMem noUser]
    rfl
  simp only [hostAndPort, alone, Option.getD_none] at hosted portless
  cases empty : host.isEmpty with
  | false => exact ⟨host, by rw [named, empty, if_neg Bool.false_ne_true]⟩
  | true =>
      obtain rfl := String.isEmpty_iff.1 empty
      exact absurd (eq_nil_of_splitPort (Prod.ext (eq_nil_of_opaqueHost hosted) (portless rfl)))
        something

/-- The host of a directory address is read by the rules for opaque ones. -/
theorem opaqueHost_of_parse {s host : String} {u : Url} (read : parse s = .ok u)
    (general : schemeKind u.scheme = .general) (named : u.host = some host) :
    ∃ cs, opaqueHost cs = .ok host := by
  unfold parse at read
  split at read
  · cases read
  rw [afterScheme_scheme read] at general
  simp only [afterScheme, general] at read
  split at read
  · obtain ⟨host', hosted, named', -⟩ := afterSlashes_parts read
    rw [named'] at named
    split at named
    · cases named
    · obtain rfl := Option.some.inj named
      exact ⟨_, hosted⟩
  · obtain rfl := Except.ok.inj read
    cases named
  · obtain rfl := Except.ok.inj read
    cases named

end Url

/-! ## Following a referral -/

/-- What a referral leads to is put together from the parts of its address. -/
theorem ReferralTarget.serverUrl_parts {text : String} {target : ReferralTarget}
    (parsed : ReferralTarget.parse text = .ok target) :
    ∃ (scheme : DirectoryScheme) (host : String) (port : Nat),
      (∃ cs, Url.opaqueHost cs = .ok host) ∧
        target.serverUrl = scheme.text ++ "://" ++ host ++ ":" ++ toString port := by
  unfold ReferralTarget.parse at parsed
  split at parsed
  · cases parsed
  next url read =>
  split at parsed
  · cases parsed
  next port known =>
  split at parsed
  · cases parsed
  next host named =>
  dsimp only at parsed
  split at parsed
  · cases parsed
  obtain rfl := Except.ok.inj parsed
  obtain ⟨scheme, spelt⟩ : ∃ scheme : DirectoryScheme, url.scheme = scheme.text := by
    by_cases isLdap : url.scheme = "ldap"
    · exact ⟨.ldap, isLdap⟩
    · by_cases isLdaps : url.scheme = "ldaps"
      · exact ⟨.ldaps, isLdaps⟩
      · simp [ReferralTarget.defaultPort?, isLdap, isLdaps] at known
  have general : Url.schemeKind url.scheme = .general := by
    rw [spelt]
    cases scheme <;> rfl
  exact ⟨scheme, host, url.port.getD port, Url.opaqueHost_of_parse read general named, by
    rw [← spelt]⟩

/-- **The address that a referral leads to names a host.** -/
theorem ReferralTarget.serverUrl_host {text : String} {target : ReferralTarget} {u : Url}
    (parsed : ReferralTarget.parse text = .ok target) (read : Url.parse target.serverUrl = .ok u) :
    ∃ host, u.host = some host := by
  obtain ⟨scheme, host, port, ⟨cs, hosted⟩, made⟩ := ReferralTarget.serverUrl_parts parsed
  let authority := host.toList ++ ':' :: (toString port).toList
  have parts : ∀ c ∈ authority, Url.HostPart c := by
    refine List.forall_mem_append.2 ⟨Url.hostPart_of_opaqueHost hosted,
      List.forall_mem_cons.2 ⟨by decide, fun c among => Url.hostPart_of_inert ?_⟩⟩
    rw [Nat.toString_eq_ofList_toDigits, String.toList_ofList] at among
    have digit : c.isDigit = true := Nat.isDigit_of_mem_toDigits (by decide) (by decide) among
    exact Url.inert_of_isUnreserved
      (Text.isUnreserved_of_isAlphanum (by simp [Char.isAlphanum, digit]))
  have text : target.serverUrl.toList = scheme.text.toList ++ "://".toList ++ authority := by
    rw [made]
    simp only [String.toList_append, List.append_assoc]
    rfl
  have counts : ∀ c ∈ scheme.text.toList ++ "://".toList ++ authority, Url.isMargin c = false := by
    refine List.forall_mem_append.2 ⟨?_, fun c among => (parts c among).counts⟩
    cases scheme <;> exact List.all_iff_forall_prop.1 (by decide)
  have split : Url.readScheme (scheme.text.toList ++ "://".toList ++ authority) =
      some (scheme.text.toList, '/' :: '/' :: authority) := by
    cases scheme <;> rfl
  have kind : Url.schemeKind scheme.text = .general := by
    cases scheme <;> rfl
  have whole : authority.takeWhile (fun c => !Url.endsAuthority .general c) = authority := by
    refine List.takeWhile_eq_self_iff.2 fun c among => ?_
    rw [(parts c among).goesOn]
    rfl
  rw [Url.parse, text, Url.significant_eq counts, split] at read
  simp only [String.ofList_toList, Url.afterScheme, kind] at read
  refine Url.afterSlashes_host read ?_ ?_
  · rw [whole]
    exact List.append_ne_nil_of_right_ne_nil _ (List.cons_ne_nil _ _)
  · rw [whole]
    exact fun among => (parts '@' among).notAt rfl

variable {κ σ : Type}

theorem Failure.ok_calm {α : Type} (a : α) : (Except.ok a : Except Failure α) ≠ .error .panic := by
  intro panicked
  cases panicked

theorem Failure.error_calm {α : Type} (e : DirError) :
    (Except.error (.error e) : Except Failure α) ≠ .error .panic := by
  intro panicked
  cases panicked

/-- Asking for encryption has an answer. -/
theorem Client.negotiate_answers (k : LinkId) (patience : Option Nat) (s : σ) (w : World κ) :
    ∃ r, (Client.negotiate k patience s w).1 = .ok r := by
  obtain ⟨answer, answered⟩ := Client.exchange_answers k patience []
    (.extended Client.startTlsOid none) s w
  simp only [Client.negotiate, Act.bind_apply]
  generalize Client.exchange k patience [] _ s w = y at answered ⊢
  obtain ⟨r, s', w'⟩ := y
  obtain rfl : r = .ok answer := answered
  cases answer with
  | error e => exact ⟨_, rfl⟩
  | ok reply =>
      dsimp only
      split
      · exact ⟨_, rfl⟩
      · exact ⟨_, rfl⟩

/-- An address that names a host is connected to, or not. -/
theorem Client.dial_answers {url : String} (settings : ConnSettings)
    (hosted : ∀ u, Url.parse url = .ok u → ∃ host, u.host = some host) (s : σ) (w : World κ) :
    ∃ r, (Client.dial url settings s w).1 = .ok r := by
  cases read : Url.parse url with
  | error fault => exact ⟨_, by rw [Client.dial, read]; rfl⟩
  | ok u =>
      obtain ⟨host, named⟩ := hosted u read
      simp only [Client.dial, read, named]
      by_cases isLocal : u.scheme = "ldapi"
      · rw [if_pos isLocal]
        exact ⟨_, rfl⟩
      rw [if_neg isLocal]
      cases Client.defaultPort? u.scheme with
      | none => exact ⟨_, rfl⟩
      | some port =>
          simp only [Act.bind_apply, Act.network_apply]
          cases w.network.accept (host ++ ":" ++ toString (u.port.getD port)) with
          | none => exact ⟨_, rfl⟩
          | some made =>
              simp only [Act.bind_apply, Act.updateNetwork_apply]
              split
              · exact Client.negotiate_answers _ _ s _
              · exact ⟨_, rfl⟩

/-- Opening a connection to an address that names a host panics never. -/
theorem Connection.open_calm {url : String} (config : LdapConfig) (credentials : Credentials)
    (controls : List Control) (hosted : ∀ u, Url.parse url = .ok u → ∃ host, u.host = some host)
    (s : σ) (w : World κ) :
    (Connection.open url config credentials controls s w).1 ≠ .error .panic := by
  obtain ⟨w₁, configured, -⟩ := configure_network w.slot (settings config url) s w
  simp only [«open», Act.bind_apply, Act.world_apply, configured, Act.updateNetwork_apply]
  generalize SocketFactory.configured w.slot (settings config url) = settings
  obtain ⟨r, answered⟩ := Client.dial_answers settings hosted s
    { w₁ with network := w₁.network.recordDial ⟨url, w.slot, settings⟩ }
  generalize Client.dial url settings s
    { w₁ with network := w₁.network.recordDial ⟨url, w.slot, settings⟩ } = y at answered
  obtain ⟨r', s', w₂⟩ := y
  obtain rfl : r' = .ok r := answered
  cases r with
  | error e => exact Failure.error_calm _
  | ok k =>
      dsimp only
      split
      · exact Failure.ok_calm k
      · obtain ⟨answer, bound⟩ := bind_answers k credentials controls s' w₂
        simp only [Act.bind_apply]
        generalize Connection.bind k credentials controls s' w₂ = z at bound
        obtain ⟨r, s'', w₃⟩ := z
        obtain rfl : r = .ok answer := bound
        cases answer with
        | ok _ => exact Failure.ok_calm k
        | error e => exact Failure.error_calm e

/-- **Following a referral never panics**, whatever its addresses are. -/
theorem LdapReferral.connect_calm (r : LdapReferral) (s : σ) (w : World κ) :
    (r.connect s w).1 ≠ .error .panic := by
  cases destined : r.destination with
  | error e =>
      rw [connect, destined]
      exact Failure.error_calm e
  | ok target =>
      have hosted : ∀ u, Url.parse target.serverUrl = .ok u → ∃ host, u.host = some host := by
        unfold destination at destined
        split at destined
        · cases destined
        split at destined
        · cases destined
        next parsed =>
        intro u read
        obtain rfl := Except.ok.inj destined
        refine ReferralTarget.serverUrl_host parsed ?_
        split at read <;> exact read
      have calm := Connection.open_calm r.origin.config r.origin.credentials
        r.origin.connectControls hosted s w
      simp only [connect, destined, LdapDirContext.demand, Act.bind_apply, Act.pure_apply,
        Act.outcome, LdapDirContext.openAt]
      generalize Connection.open target.serverUrl r.origin.config r.origin.credentials
        r.origin.connectControls s w = y at calm
      obtain ⟨(e | _) | k, s', w'⟩ := y
      · exact Failure.error_calm e
      · exact absurd rfl calm
      · exact Failure.ok_calm _

end ManagedLdap
