/-
# ManagedLdap.Proofs.Facade.TlsSettings -- which connections have the TLS settings

A configuration encrypts by either of two flags, and has a section that says how.  The section has
a flag of its own, and that one alone decides whether `ContextFactory.new` makes a socket factory
of it.  Nothing keeps the three together: the two builder calls that encrypt set the section's flag
as well, but whoever sets a section or a flag afterwards has the last word (`edited_eq_lastWord`),
and a configuration that is read has whatever it says.  `coherent_edited` names the edits that do
no harm.

So a factory may be accepted that encrypts without its settings.  `ContextFactory.new_eq_ok_iff`
says what is accepted and what comes of it, and `Roster.due_eq` follows that to the connections: a
bare context that is reconnected has nobody to hand it a socket factory, and every other attempt to
connect is configured by the one of the factory, if it has one.
-/
import ManagedLdap.Proofs.Facade.HandOff
import ManagedLdap.Proofs.Secrecy.Session

namespace ManagedLdap

set_option autoImplicit false

/-! ## Editing a configuration -/

namespace LdapConfig

/-- A builder call, or an assignment to a field. -/
inductive Edit where
  | credentials (bindDn password : String)
  | ssl
  | startTls
  | referralMode (mode : ReferralMode)
  /-- The whole section, by the builder call or by assignment. -/
  | tls (settings : TlsConfig)
  | pageSize (size : Int)
  | assignUseSsl (value : Bool)
  | assignUseStartTls (value : Bool)
  | assignEnabled (value : Bool)
  /-- Assignments to other fields, also to those of the sections. -/
  | assign (change : LdapConfig → LdapConfig)
      (keeps : ∀ c, (change c).useSsl = c.useSsl ∧ (change c).useStartTls = c.useStartTls ∧
        (change c).tls.enabled = c.tls.enabled)

namespace Edit

def apply (c : LdapConfig) : Edit → LdapConfig
  | .credentials bindDn password => c.withCredentials bindDn password
  | .ssl => c.withSsl
  | .startTls => c.withStartTls
  | .referralMode mode => c.withReferralMode mode
  | .tls settings => c.withTls settings
  | .pageSize size => c.withPageSize size
  | .assignUseSsl value => { c with useSsl := value }
  | .assignUseStartTls value => { c with useStartTls := value }
  | .assignEnabled value => { c with tls := { c.tls with enabled := value } }
  | .assign change _ => change c

/-- What an edit says of encryption from the first octet on. -/
def useSsl? : Edit → Option Bool
  | .ssl => some true
  | .assignUseSsl value => some value
  | _ => none

/-- What an edit says of encryption on request. -/
def useStartTls? : Edit → Option Bool
  | .startTls => some true
  | .assignUseStartTls value => some value
  | _ => none

/-- What an edit says of the section's own flag. -/
def enabled? : Edit → Option Bool
  | .ssl => some true
  | .startTls => some true
  | .tls settings => some settings.enabled
  | .assignEnabled value => some value
  | _ => none

theorem useSsl_apply (c : LdapConfig) (e : Edit) :
    (e.apply c).useSsl = e.useSsl?.getD c.useSsl := by
  cases e with
  | assign change keeps => exact (keeps c).1
  | _ => rfl

theorem useStartTls_apply (c : LdapConfig) (e : Edit) :
    (e.apply c).useStartTls = e.useStartTls?.getD c.useStartTls := by
  cases e with
  | assign change keeps => exact (keeps c).2.1
  | _ => rfl

theorem enabled_apply (c : LdapConfig) (e : Edit) :
    (e.apply c).tls.enabled = e.enabled?.getD c.tls.enabled := by
  cases e with
  | assign change keeps => exact (keeps c).2.2
  | _ => rfl

end Edit

/-- A configuration after edits, in their order. -/
def edited (c : LdapConfig) (edits : List Edit) : LdapConfig := edits.foldl Edit.apply c

/-- The last thing that edits say; what was there before them when they say nothing. -/
def lastWord (word : Edit → Option Bool) (edits : List Edit) (before : Bool) : Bool :=
  (edits.reverse.findSome? word).getD before

/-- A flag that an edit changes only to what it says has the last word of them all. -/
theorem edited_eq_lastWord {flag : LdapConfig → Bool} {word : Edit → Option Bool}
    (apply : ∀ c e, flag (Edit.apply c e) = (word e).getD (flag c)) (c : LdapConfig)
    (edits : List Edit) : flag (c.edited edits) = lastWord word edits (flag c) := by
  induction edits generalizing c with
  | nil => rfl
  | cons e edits ih =>
      rw [edited, List.foldl_cons, ← edited, ih, apply]
      unfold lastWord
      rw [List.reverse_cons, List.findSome?_append]
      cases List.findSome? word edits.reverse with
      | some value => rfl
      | none => cases said : word e <;> simp [said]

/-- Whatever encrypts comes with an enabled section. -/
def Coherent (c : LdapConfig) : Prop :=
  c.useSsl = true ∨ c.useStartTls = true → c.tls.enabled = true

/-- An edit that asks for encryption by its flag alone, or disables the section. -/
def Edit.isHasty : Edit → Bool
  | .tls settings => !settings.enabled
  | .assignUseSsl value => value
  | .assignUseStartTls value => value
  | .assignEnabled value => !value
  | _ => false

/-- The builder calls that encrypt enable the section; an edit that is not hasty asks for no
encryption by itself and leaves an enabled section enabled. -/
theorem Edit.coherent_apply {c : LdapConfig} {e : Edit} (careful : e.isHasty = false)
    (coherent : c.Coherent) : (e.apply c).Coherent := by
  cases e with
  | ssl => exact fun _ => rfl
  | startTls => exact fun _ => rfl
  | tls settings =>
      have enabled : settings.enabled = true := by simpa [isHasty] using careful
      exact fun _ => enabled
  | assignEnabled value =>
      obtain rfl : value = true := by simpa [isHasty] using careful
      exact fun _ => rfl
  | assignUseSsl value =>
      obtain rfl : value = false := careful
      exact fun encrypts => coherent (.inr (encrypts.resolve_left Bool.noConfusion))
  | assignUseStartTls value =>
      obtain rfl : value = false := careful
      exact fun encrypts => coherent (.inl (encrypts.resolve_right Bool.noConfusion))
  | assign change keeps =>
      obtain ⟨useSsl, useStartTls, enabled⟩ := keeps c
      unfold Coherent
      rw [apply, useSsl, useStartTls, enabled]
      exact coherent
  | _ => exact coherent

theorem coherent_edited {c : LdapConfig} {edits : List Edit} (coherent : c.Coherent)
    (careful : ∀ e ∈ edits, e.isHasty = false) : (c.edited edits).Coherent := by
  induction edits generalizing c with
  | nil => exact coherent
  | cons e edits ih =>
      obtain ⟨first, rest⟩ := List.forall_mem_cons.1 careful
      exact ih (Edit.coherent_apply first coherent) rest

end LdapConfig

/-! ## Making a factory -/

section

variable {κ σ : Type} {files : HostFiles} {config : LdapConfig}

/-- What is made of a section is the factory of that section. -/
theorem SocketFactory.eq_of_ofTls {settings : TlsConfig} {factory : SocketFactory}
    (made : SocketFactory.ofTls files settings = .ok factory) : factory = .tls settings := by
  unfold SocketFactory.ofTls at made
  cases ca : SocketFactory.checkCa files settings with
  | error fault => simp [ca, bind, Except.bind] at made
  | ok _ =>
      cases identity : SocketFactory.checkIdentity files settings with
      | error fault => simp [ca, identity, bind, Except.bind] at made
      | ok _ =>
          cases version : SocketFactory.checkVersion settings with
          | error fault => simp [ca, identity, version, bind, Except.bind] at made
          | ok _ =>
              simp only [ca, identity, version, bind, Except.bind, pure, Except.pure,
                Except.ok.injEq] at made
              exact made.symm

/-- The socket factory of a configuration's section, where it is enabled. -/
def LdapConfig.ownSocketFactory (c : LdapConfig) : Option SocketFactory :=
  if c.tls.enabled then some (.tls c.tls) else none

theorem TlsConfig.warnOf_ok (c : TlsConfig) (s : σ) (w : World κ) :
    ∃ w', (c.warnOf : Act κ σ Unit) s w = (.ok (), s, w') := by
  unfold TlsConfig.warnOf
  split
  · exact ⟨_, rfl⟩
  · exact ⟨w, rfl⟩

theorem TlsConfig.socketFactory_apply (files : HostFiles) (c : TlsConfig) (s : σ) (w : World κ) :
    ∃ w', c.socketFactory files s w =
      (match SocketFactory.ofTls files c with
        | .ok factory => .ok factory
        | .error fault => .error (.error (.invalidConfiguration fault.message)), s, w') := by
  obtain ⟨w', warned⟩ := c.warnOf_ok s w
  refine ⟨w', ?_⟩
  simp only [TlsConfig.socketFactory, Act.bind_apply, warned]
  cases SocketFactory.ofTls files c <;> rfl

/-- What is accepted, and the factory that it makes. -/
theorem ContextFactory.new_eq_ok_iff {f : ContextFactory} (s : σ) (w : World κ) :
    (ContextFactory.new files config s w).1 = .ok f ↔
      config.fault? = none ∧
      (config.tls.enabled = true → ∃ factory, SocketFactory.ofTls files config.tls = .ok factory) ∧
      f = ⟨config, config.ownSocketFactory⟩ := by
  simp only [ContextFactory.new, LdapConfig.validate, LdapConfig.ownSocketFactory, Act.bind_apply]
  cases fault : config.fault? with
  | some fault => simp
  | none =>
      obtain ⟨w', warned⟩ := config.tls.warnOf_ok s w
      simp only [warned]
      cases enabled : config.tls.enabled with
      | false => simp [eq_comm]
      | true =>
          obtain ⟨w'', made⟩ := TlsConfig.socketFactory_apply files config.tls s w'
          simp only [if_true, Act.bind_apply, made]
          cases ofTls : SocketFactory.ofTls files config.tls with
          | error fault => simp
          | ok factory =>
              obtain rfl := SocketFactory.eq_of_ofTls ofTls
              simp [eq_comm]

end

/-! ## Using a factory -/

namespace Roster

open LdapConfig (Edit lastWord)

/-- Whether an errand reconnects a bare context. -/
def reconnectsBare (r : Roster) : Errand → Bool
  | .use i (.perform op) =>
      match r.contexts[i]? with
      | some (some (.plain _)) => op.opensConnection
      | _ => false
  | _ => false

/-- Nobody hands anything to a bare context that is reconnected; all other attempts to connect are
configured by the socket factory of the factory, or by none when it has none. -/
theorem due_eq (f : ContextFactory) (r : Roster) (m : Errand) :
    ∀ x ∈ r.due f m, x = if r.reconnectsBare m then none else f.socketFactory := by
  cases m with
  | use i usage =>
      simp only [due]
      cases found : r.contexts[i]? with
      | none => exact List.forall_mem_nil _
      | some place =>
          cases place with
          | none => exact List.forall_mem_nil _
          | some c =>
              cases usage with
              | perform op =>
                  cases c <;> cases opens : op.opensConnection <;>
                    simp [Usage.due, reconnectsBare, found, opens]
              | follow referral =>
                  cases c <;> cases leads : referral.destination.isOk <;>
                    simp [Usage.due, reconnectsBare, leads]
              | initial config => cases c <;> simp [Usage.due, reconnectsBare]
              | close => exact List.forall_mem_nil _
              | drop => exact List.forall_mem_nil _
  | read j reading => exact List.forall_mem_nil _
  | _ => simp [due, reconnectsBare]

variable {κ σ : Type} {files : HostFiles}

/-- **The TLS settings.**  Let a configuration be built or read, then edited, and let a factory be
made of it.  Each of the flags is what was last said of it, whatever was said of the others; edits
that are not hasty keep it so that whatever encrypts comes with an enabled section.  The socket
factory is that of the section if the section is enabled, and none if it is not, whether or not the
configuration encrypts.  Whatever is done with the factory and with what comes of it, each attempt
to connect is configured by that, except where a bare context is reconnected, which is not
configured at all. -/
theorem tls_settings_reach {initial : LdapConfig} {edits : List Edit} {f : ContextFactory} {s : σ}
    {w : World κ}
    (accepted : (ContextFactory.new files (initial.edited edits) s w).1 = .ok f) :
    let config := initial.edited edits
    (config.useSsl = lastWord Edit.useSsl? edits initial.useSsl ∧
      config.useStartTls = lastWord Edit.useStartTls? edits initial.useStartTls ∧
      config.tls.enabled = lastWord Edit.enabled? edits initial.tls.enabled) ∧
    (initial.Coherent → (∀ e ∈ edits, e.isHasty = false) → config.Coherent) ∧
    f = ⟨config, if config.tls.enabled then some (.tls config.tls) else none⟩ ∧
    ∀ before errands thread m,
      let r := (start before).run f errands
      ∃ added, (r.step f thread m).world.network.dials = r.world.network.dials ++ added ∧
        added.map Dial.factory = r.due f m ∧
        ∀ d ∈ added, d.factory =
          if r.reconnectsBare m then none
          else if config.tls.enabled then some (.tls config.tls) else none := by
  intro config
  obtain ⟨-, -, made⟩ := (ContextFactory.new_eq_ok_iff s w).1 accepted
  refine ⟨⟨LdapConfig.edited_eq_lastWord Edit.useSsl_apply initial edits,
    LdapConfig.edited_eq_lastWord Edit.useStartTls_apply initial edits,
    @LdapConfig.edited_eq_lastWord (fun c => c.tls.enabled) _ Edit.enabled_apply initial edits⟩,
    LdapConfig.coherent_edited, made, ?_⟩
  intro before errands thread m r
  obtain ⟨added, grown, factories⟩ :=
    (step_dials (run_steady (start_steady _ before) errands) thread m).dials
  refine ⟨added, grown, factories, fun d among => ?_⟩
  have configured := due_eq f r m d.factory (factories ▸ List.mem_map_of_mem among)
  rw [made] at configured
  exact configured

/-- Encryption with a lowest version, in an enabled section.  A facade that was obtained reconnects
with the settings. -/
theorem tls_settings_reach_reconnect :
    let settings : TlsConfig := { enabled := true, minTlsVersion := some "1.2" }
    let config := (LdapConfig.new "h" "dc=x").edited
      [.ssl, .credentials "cn=a" "secret", .tls settings]
    let f : ContextFactory := ⟨config, some (.tls settings)⟩
    let r := (start { network := .loopback [⟨"h:636", []⟩] }).run f [(0, .obtain .ignore)]
    config.useSsl = true ∧ config.Coherent ∧
      ∃ added, (r.step f 1 (.use 0 (.perform (.reconnect [])))).world.network.dials =
          r.world.network.dials ++ added ∧
        added.map Dial.factory = [some (.tls settings)] := by
  intro settings config f
  have accepted : ((ContextFactory.new HostFiles.absent config : Act Unit Unit ContextFactory) ()
      { network := .isolated }).1 = .ok f :=
    (ContextFactory.new_eq_ok_iff () _).2 ⟨by decide +kernel, fun _ => ⟨_, rfl⟩, rfl⟩
  obtain ⟨⟨useSsl, -⟩, coherent, -, reach⟩ := tls_settings_reach accepted
  obtain ⟨added, grown, factories, -⟩ :=
    reach { network := .loopback [⟨"h:636", []⟩] } [(0, .obtain .ignore)] 1
      (.use 0 (.perform (.reconnect [])))
  exact ⟨useSsl, coherent (by rintro (⟨⟨⟩⟩ | ⟨⟨⟩⟩)) (by decide), added, grown,
    factories.trans (by decide +kernel)⟩

/-- Encryption is asked for before the section is set, and the section says nothing of it.  The
factory is accepted and connects encrypted, without the lowest version that was set. -/
theorem ssl_without_settings :
    let config := ((LdapConfig.new "h" "dc=x").withSsl).withTls
      (TlsConfig.withMinTlsVersion {} "1.2")
    ((ContextFactory.new HostFiles.absent config : Act Unit Unit ContextFactory) ()
        { network := .isolated }).1 = .ok ⟨config, none⟩ ∧
      config.useSsl = true ∧
      ((start { network := .isolated }).run ⟨config, none⟩
        [(0, .obtain .ignore)]).world.network.dials =
          [⟨"ldaps://h:636", none, { timeoutSecs := 30, startTls := false }⟩] :=
  ⟨(ContextFactory.new_eq_ok_iff () _).2
    ⟨by decide +kernel, fun enabled => absurd enabled (by decide), rfl⟩, rfl, by decide +kernel⟩

end Roster

end ManagedLdap
