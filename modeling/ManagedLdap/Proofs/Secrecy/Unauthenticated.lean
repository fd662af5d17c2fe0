/-
# ManagedLdap.Proofs.Secrecy.Unauthenticated -- binds of a name without a password

A server answers a bind of a name with an empty password with success and checks nothing.  A
configuration that would lead to one has a fault, so nothing that comes of a factory by itself
sends one, neither at once nor when it reconnects or follows a referral.  But an identity that is
stated beside the configuration is taken as it is.

So such a bind is always that of an identity that the script states (`Session.unauthenticated`):
a veil that gives this one identity a password, and leaves every other one and every
configuration alone, cannot move anything else.
-/
import ManagedLdap.Proofs.Secrecy.Session

namespace ManagedLdap

set_option autoImplicit false

variable {v : Veil}

/-- Whether a request binds a name with an empty password. -/
def SentRequest.isUnauthenticated (r : SentRequest) : Bool :=
  match r.request with
  | .bind dn password => !dn.isEmpty && password.isEmpty
  | _ => false

theorem SentRequest.binds_of_isUnauthenticated {r : SentRequest}
    (bare : r.isUnauthenticated = true) : ∃ dn, dn ≠ "" ∧ r.request = .bind dn "" := by
  unfold isUnauthenticated at bare
  split at bare
  · rename_i dn password bound
    simp only [Bool.and_eq_true, Bool.not_eq_true', String.isEmpty_iff] at bare
    obtain ⟨named, rfl⟩ := bare
    exact ⟨dn, fun empty => by simp [empty] at named, bound⟩
  · cases bare

/-! ## The identities a script states -/

/-- The identity a failure hands to whoever follows it. -/
def Failure.identities : Failure → List Credentials
  | .error (.referral (.ldap r)) => [r.origin.credentials]
  | _ => []

def ScriptedContext.identities (c : ScriptedContext) : List Credentials :=
  c.entries.flatMap (fun
    | .ok _ => []
    | .error f => f.identities) ++
  (c.cursorFailure.toList.flatMap Failure.identities ++
    c.failures.entries.flatMap fun e => e.2.identities)

def CloseHandler.identities : CloseHandler → List Credentials
  | .refusing f => f.identities
  | _ => []

namespace Session

def InitialSource.identities : InitialSource → List Credentials
  | .scripted failure => failure.toList.flatMap Failure.identities
  | .factory _ => []

def Wrapped.identities : Wrapped → List Credentials
  | .scripted context => context.identities
  | .kept _ => []

/-- The identities a step states beside those of configurations. -/
def Action.identities : Action → List Credentials
  | .script context _ => context.identities
  | .wrap inner _ handler _ =>
      inner.identities ++ handler.toList.flatMap CloseHandler.identities
  | .obtain _ _ credentials handler _ =>
      credentials.toList ++ handler.toList.flatMap CloseHandler.identities
  | .connect _ credentials _ _ => [credentials]
  | .initial _ source _ => source.identities
  | _ => []

def Script.identities : Script → List Credentials
  | .done => []
  | .act action _ rest => action.identities ++ rest.identities
  | .thread body rest => body.identities ++ rest.identities

end Session

/-! ## Veils that leave a script alone -/

namespace Veil

/-- A veil that leaves these identities alone, and all configurations. -/
structure Spares (v : Veil) (cs : List Credentials) : Prop where
  configured : ∀ p, v.configured p = p
  identity : ∀ c ∈ cs, v.identity c = c.password

theorem Spares.left {cs ds : List Credentials} (spares : v.Spares (cs ++ ds)) : v.Spares cs :=
  ⟨spares.configured, fun c stated => spares.identity c (List.mem_append_left _ stated)⟩

theorem Spares.right {cs ds : List Credentials} (spares : v.Spares (cs ++ ds)) : v.Spares ds :=
  ⟨spares.configured, fun c stated => spares.identity c (List.mem_append_right _ stated)⟩

theorem Spares.part {α : Type} {f : α → List Credentials} {as : List α}
    (spares : v.Spares (as.flatMap f)) {a : α} (part : a ∈ as) : v.Spares (f a) :=
  ⟨spares.configured, fun c stated => spares.identity c (List.mem_flatMap.2 ⟨a, part, stated⟩)⟩

theorem Spares.config {cs : List Credentials} (spares : v.Spares cs) (c : LdapConfig) :
    v.cover c = c :=
  congrArg (fun p => { c with bindPassword := p }) (spares.configured c.bindPassword)

theorem Spares.credentials {cs : List Credentials} (spares : v.Spares cs) {c : Credentials}
    (stated : c ∈ cs) : v.cover c = c :=
  congrArg (Credentials.mk c.bindDn) (spares.identity c stated)

/-- A list is left alone when its elements are. -/
theorem cover_list {α : Type} [Veilable α] {as : List α} :
    v.cover as = as ↔ ∀ a ∈ as, v.cover a = a := by
  have same : v.cover as = as ↔ as.map v.cover = as.map id := by
    rw [List.map_id]
    rfl
  exact same.trans List.map_inj_left

/-- An optional part that is left alone. -/
theorem cover_option {α : Type} [Veilable α] {a : Option α}
    (fixed : ∀ b ∈ a.toList, v.cover b = b) : v.cover a = a := by
  cases a with
  | none => rfl
  | some b => exact congrArg some (fixed b List.mem_cons_self)

end Veil

open Veil

theorem Failure.cover_spared {f : Failure} (spares : v.Spares f.identities) : v.cover f = f := by
  rcases f with e | _
  · cases e with
    | referral r =>
        cases r with
        | ldap r =>
            change Failure.error (.referral (.ldap { r with
              origin := { r.origin with
                config := v.cover r.origin.config
                credentials := v.cover r.origin.credentials } })) = _
            rw [spares.config, spares.credentials List.mem_cons_self]
        | scripted r => rfl
    | _ => rfl
  · rfl

theorem ScriptedContext.cover_spared {c : ScriptedContext} (spares : v.Spares c.identities) :
    v.cover c = c := by
  have entries : v.cover c.entries = c.entries := cover_list.2 fun e part => by
    have spared := spares.left.part part
    rcases e with f | r
    · exact congrArg Except.error (Failure.cover_spared spared)
    · rfl
  have cursorFailure : v.cover c.cursorFailure = c.cursorFailure :=
    cover_option fun _ part => Failure.cover_spared (spares.right.left.part part)
  have failures : v.cover c.failures = c.failures :=
    OrderedMap.ext_entries (cover_list.2 fun e part =>
      congrArg (Prod.mk e.1) (Failure.cover_spared (spares.right.right.part part)))
  change { c with
    entries := v.cover c.entries
    cursorFailure := v.cover c.cursorFailure
    failures := v.cover c.failures } = c
  rw [entries, cursorFailure, failures]

theorem CloseHandler.cover_spared {h : CloseHandler} (spares : v.Spares h.identities) :
    v.cover h = h := by
  cases h with
  | refusing f => exact congrArg CloseHandler.refusing (Failure.cover_spared spares)
  | _ => rfl

namespace Session

theorem InitialSource.cover_spared {s : InitialSource} (spares : v.Spares s.identities) :
    v.cover s = s := by
  cases s with
  | factory name => rfl
  | scripted failure =>
      exact congrArg InitialSource.scripted
        (cover_option fun _ part => Failure.cover_spared (spares.part part))

theorem Wrapped.cover_spared {w : Wrapped} (spares : v.Spares w.identities) : v.cover w = w := by
  cases w with
  | kept name => rfl
  | scripted context =>
      exact congrArg Wrapped.scripted (ScriptedContext.cover_spared spares)

theorem Action.cover_spared {action : Action} (spares : v.Spares action.identities) :
    v.cover action = action := by
  cases action with
  | script context into =>
      exact congrArg (Action.script · into) (ScriptedContext.cover_spared spares)
  | wrap inner factory handler into =>
      have inside := Wrapped.cover_spared spares.left
      have handled : v.cover handler = handler :=
        cover_option fun _ part => CloseHandler.cover_spared (spares.right.part part)
      change Action.wrap (v.cover inner) factory (v.cover handler) into = _
      rw [inside, handled]
  | makeFactory config factory into =>
      exact congrArg (Action.makeFactory · factory into) (spares.config config)
  | obtain factory mode credentials handler into =>
      have stated : v.cover credentials = credentials :=
        cover_option fun _ part => spares.left.credentials part
      have handled : v.cover handler = handler :=
        cover_option fun _ part => CloseHandler.cover_spared (spares.right.part part)
      change Action.obtain factory mode (v.cover credentials) (v.cover handler) into = _
      rw [stated, handled]
  | connect config credentials env into =>
      change Action.connect (v.cover config) (v.cover credentials) env into = _
      rw [spares.config, spares.credentials List.mem_cons_self]
  | initial facade source into =>
      exact congrArg (Action.initial facade · into) (InitialSource.cover_spared spares)
  | _ => rfl

theorem Script.cover_spared {script : Script} (spares : v.Spares script.identities) :
    v.cover script = script := by
  induction script with
  | done => rfl
  | act action keepReferral rest ih =>
      have told := Action.cover_spared spares.left
      change Script.act (v.cover action) keepReferral (v.cover rest) = _
      rw [told, ih spares.right]
  | thread body rest ihBody ihRest =>
      change Script.thread (v.cover body) (v.cover rest) = _
      rw [ihBody spares.left, ihRest spares.right]

end Session

/-! ## Unauthenticated binds -/

/-- A name that is configured without a password is a fault. -/
theorem LdapConfig.credentials_authenticated {c : LdapConfig} (faultless : c.fault? = none)
    {dn : String} (named : dn ≠ "") : c.credentials ≠ ⟨dn, ""⟩ := by
  intro same
  injection same with name password
  have lacks : (!c.bindDn.isEmpty && c.password.isEmpty) = true := by
    rw [name, password]
    simpa using named
  simp only [fault?, lacks, if_true] at faultless
  split at faultless
  · cases faultless
  · split at faultless
    · cases faultless
    · split at faultless <;> cases faultless

/-- The veil that gives this one name a password where it has none. -/
def standIn {dn : String} (named : dn ≠ "") : Veil where
  identity c := if c = ⟨dn, ""⟩ then "x" else c.password
  configured := id
  present _ := rfl
  fault _ := rfl
  agrees c faultless := by
    rw [if_neg (LdapConfig.credentials_authenticated faultless named)]
    rfl

theorem standIn_spares {dn : String} (named : dn ≠ "") {cs : List Credentials}
    (absent : (⟨dn, ""⟩ : Credentials) ∉ cs) : (standIn named).Spares cs where
  configured _ := rfl
  identity c stated := if_neg fun same => absent (by rwa [← same])

/-- What a veil leaves alone was sent as it is. -/
theorem Veil.cover_sent {links : List Link} (fixed : v.cover links = links) {l : Link}
    (made : l ∈ links) {r : SentRequest} (sent : r ∈ l.sent) : v.cover r.request = r.request := by
  have requests : v.cover l.sent = l.sent := congrArg Link.sent (cover_list.1 fixed l made)
  exact congrArg SentRequest.request (cover_list.1 requests r sent)

namespace Session

/-- A name is bound with an empty password only where the script states that identity. -/
theorem unauthenticated_bind_stated (host : Network.Host) (files : HostFiles)
    (listeners : List Listener) {script : Script} {t : Transcript}
    (ran : run host files listeners script = some t) {l : Link} (made : l ∈ t.links)
    {r : SentRequest} (sent : r ∈ l.sent) (bare : r.isUnauthenticated = true) :
    ∃ dn, r.request = .bind dn "" ∧ (⟨dn, ""⟩ : Credentials) ∈ script.identities := by
  obtain ⟨dn, named, bound⟩ := r.binds_of_isUnauthenticated bare
  refine ⟨dn, bound, Classical.byContradiction fun absent => ?_⟩
  have told : (standIn named).cover script = script :=
    Script.cover_spared (standIn_spares named absent)
  have same := run_cover (v := standIn named) host files listeners script
  rw [told, ran] at same
  have links : (standIn named).cover t.links = t.links :=
    congrArg Transcript.links (Option.some.inj same).symm
  have kept := Veil.cover_sent links made sent
  rw [bound] at kept
  injection kept with _ password
  have given : (standIn named).identity ⟨dn, ""⟩ = "x" := if_pos rfl
  rw [given] at password
  exact absurd password (by decide)

/-- A session that asks a factory for a context of a name without a password. -/
def unguarded : Script :=
  .act (.makeFactory { host := "h", baseDn := "dc=x" } none "f") none <|
  .act (.obtain "f" .ignore (some ⟨"cn=a", ""⟩) none "c") none .done

/-- A server that accepts a connection. -/
def listening : List Listener := [{ address := "h:389", scripts := [[]] }]

theorem obtained_without_password :
    (run .loopback HostFiles.absent listening unguarded).any
      (fun t => t.links.any fun l => l.sent.any SentRequest.isUnauthenticated) = true := by
  decide +kernel

/-- Something that was sent in a session that has a report. -/
theorem exists_sent {ran : Option Transcript} {p : SentRequest → Bool}
    (found : ran.any (fun t => t.links.any fun l => l.sent.any p) = true) :
    ∃ t l r, ran = some t ∧ l ∈ t.links ∧ r ∈ l.sent ∧ p r = true := by
  cases ran with
  | none => cases found
  | some t =>
      obtain ⟨l, made, found⟩ := List.any_eq_true.1 found
      obtain ⟨r, sent, holds⟩ := List.any_eq_true.1 found
      exact ⟨t, l, r, rfl, made, sent, holds⟩

theorem unauthenticated_bind_stated_of_obtained :
    ∃ t l r, run .loopback HostFiles.absent listening unguarded = some t ∧ l ∈ t.links ∧
      r ∈ l.sent ∧ r.isUnauthenticated = true ∧
      ∃ dn, r.request = .bind dn "" ∧ (⟨dn, ""⟩ : Credentials) ∈ unguarded.identities := by
  obtain ⟨t, l, r, ran, made, sent, bare⟩ : ∃ t l r,
      run .loopback HostFiles.absent listening unguarded = some t ∧ l ∈ t.links ∧ r ∈ l.sent ∧
        r.isUnauthenticated = true :=
    exists_sent (by decide +kernel)
  exact ⟨t, l, r, ran, made, sent, bare,
    unauthenticated_bind_stated .loopback HostFiles.absent listening ran made sent bare⟩

end Session

end ManagedLdap
