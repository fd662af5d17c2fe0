/-
# ManagedLdap.Proofs.Secrecy.Passwords -- a password goes into binds and nowhere else

What can be seen of a session is what its steps answer, the wording and the views of its errors
and warnings, and what was sent (`Transcript.sight`), where the password of a bind is the one
thing left out.  No veil changes any of that.  `passwords` is the veil that puts the same mark
in the place of every password that is not empty, so two scripts that it makes equal are told
to do the same with other passwords; they are not told apart by anything that can be seen
(`Session.passwords_unseen`).
-/
import ManagedLdap.Proofs.Secrecy.Session

namespace ManagedLdap

set_option autoImplicit false

variable {v : Veil}

/-! ## What can be seen -/

/-- What can be seen of an error: its code, its wording and the wording of what lies behind it,
whether it is transient, and the addresses and the view of a referral. -/
structure ErrorSight where
  code : String
  message : String
  source : Option String
  isTransient : Bool
  referral : Option (List String × String)
  deriving DecidableEq

def DirError.sight (e : DirError) : ErrorSight where
  code := e.code
  message := e.message
  source := e.source?
  isTransient := e.isTransient
  referral :=
    match e with
    | .referral r => some (r.urls, r.shown.render)
    | _ => none

/-- A panic shows nothing. -/
def Failure.sight : Failure → Option ErrorSight
  | .error e => some e.sight
  | .panic => none

/-- What can be seen of a warning: its wording and all that it says beside. -/
def Warning.sight (w : Warning) : String × List (String × String) := (w.message, w.fields)

/-- What can be seen of a request: all but the password of a bind. -/
def Request.sight : Request → Request
  | .bind dn _ => .bind dn ""
  | request => request

def SentRequest.sight (r : SentRequest) : SentRequest := { r with request := r.request.sight }

def Link.sight (l : Link) : Link := { l with sent := l.sent.map SentRequest.sight }

namespace Session

/-- What can be seen of an outcome: the outcome without its failure, and what can be seen of
that. -/
def Outcome.sight : Outcome → Outcome × Option (Option ErrorSight)
  | .failed failure => (.failed .panic, some failure.sight)
  | .items found failure => (.items found none, failure.map Failure.sight)
  | outcome => (outcome, none)

def Traces.sight (t : Traces) : List Event × List (String × List (String × String)) :=
  (t.events, t.warnings.map Warning.sight)

/-- What can be seen of a report. -/
inductive ReportSight where
  | step (outcome : Outcome × Option (Option ErrorSight))
      (traces : List Event × List (String × List (String × String))) (slot : Slot)
  | thread (reports : List ReportSight) (slot : Slot)

mutual

def Report.sight : Report → ReportSight
  | .step outcome traces slot => .step outcome.sight traces.sight slot
  | .thread reports slot => .thread (Report.sights reports) slot

def Report.sights : List Report → List ReportSight
  | [] => []
  | report :: rest => report.sight :: Report.sights rest

end

/-- What can be seen of a session. -/
structure Sight where
  reports : List ReportSight
  ending : List Event × List (String × List (String × String))
  links : List Link

def Transcript.sight (t : Transcript) : Sight where
  reports := Report.sights t.reports
  ending := t.ending.sight
  links := t.links.map Link.sight

end Session

/-! ## No veil can be seen -/

theorem map_cover {α β : Type} [Veilable α] {f : α → β} (same : ∀ a, f (v.cover a) = f a)
    (as : List α) : (v.cover as).map f = as.map f := by
  change (as.map v.cover).map f = as.map f
  rw [List.map_map]
  exact List.map_congr_left fun a _ => same a

@[simp] theorem Referral.cover_urls (v : Veil) (r : Referral) : (v.cover r).urls = r.urls := by
  cases r <;> rfl

@[simp] theorem DirError.cover_message (v : Veil) (e : DirError) :
    (v.cover e).message = e.message := by
  cases e with
  | referral r =>
      change (v.cover r).text = r.text
      simp only [Referral.text, Referral.cover_urls]
  | _ => rfl

theorem DirError.sight_cover (v : Veil) (e : DirError) : (v.cover e).sight = e.sight := by
  cases e with
  | referral r =>
      have message : (v.cover r).text = r.text := DirError.cover_message v (.referral r)
      change ErrorSight.mk _ (v.cover r).text _ _
        (some ((v.cover r).urls, (v.cover r).shown.render)) = _
      rw [message, Referral.cover_urls, Referral.cover_shown]
      rfl
  | _ => rfl

theorem Failure.sight_cover (v : Veil) (f : Failure) : (v.cover f).sight = f.sight := by
  cases f with
  | error e => exact congrArg some (DirError.sight_cover v e)
  | panic => rfl

theorem Warning.sight_cover (v : Veil) (w : Warning) : (v.cover w).sight = w.sight := by
  cases w with
  | closingDropped e =>
      exact congrArg (fun m => (_, [_, ("error", m)])) (DirError.cover_message v e)
  | referralConnection server e =>
      exact congrArg (fun m => (_, [_, ("error", m)])) (DirError.cover_message v e)
  | _ => rfl

theorem Request.sight_cover (v : Veil) (r : Request) : (v.cover r).sight = r.sight := by
  cases r <;> rfl

theorem Link.sight_cover (v : Veil) (l : Link) : (v.cover l).sight = l.sight := by
  have sent : (v.cover l.sent).map SentRequest.sight = l.sent.map SentRequest.sight :=
    map_cover (fun r => congrArg (SentRequest.mk · r.controls) (Request.sight_cover v r.request))
      l.sent
  exact congrArg (fun sent => { l with sent := sent }) sent

namespace Session

theorem Outcome.sight_cover (v : Veil) (outcome : Outcome) :
    (v.cover outcome).sight = outcome.sight := by
  cases outcome with
  | failed f => exact congrArg (fun f => (_, some f)) (Failure.sight_cover v f)
  | items found f =>
      cases f with
      | none => rfl
      | some f => exact congrArg (fun f => (_, some f)) (Failure.sight_cover v f)
  | _ => rfl

theorem Traces.sight_cover (v : Veil) (t : Traces) : (v.cover t).sight = t.sight :=
  congrArg (Prod.mk t.events) (map_cover (Warning.sight_cover v) t.warnings)

mutual

theorem Report.sight_cover (v : Veil) : ∀ report : Report, (report.cover v).sight = report.sight
  | .step outcome traces slot => by
      rw [Report.cover, Report.sight, Outcome.sight_cover, Traces.sight_cover, Report.sight]
  | .thread reports slot => by
      rw [Report.cover, Report.sight, Report.sights_cover, Report.sight]

theorem Report.sights_cover (v : Veil) :
    ∀ reports : List Report, Report.sights (Report.coverAll v reports) = Report.sights reports
  | [] => by rw [Report.coverAll]
  | report :: rest => by
      rw [Report.coverAll, Report.sights, Report.sight_cover, Report.sights_cover, Report.sights]

end

/-- A veil over a session cannot be seen. -/
theorem Transcript.sight_cover (v : Veil) (t : Transcript) : (v.cover t).sight = t.sight := by
  have reports : Report.sights (v.cover t.reports) = Report.sights t.reports := by
    rw [← Report.coverAll_eq, Report.sights_cover]
  have ending : (v.cover t.ending).sight = t.ending.sight := Traces.sight_cover v t.ending
  have links : (v.cover t.links).map Link.sight = t.links.map Link.sight :=
    map_cover (Link.sight_cover v) t.links
  change Sight.mk (Report.sights (v.cover t.reports)) (v.cover t.ending).sight
    ((v.cover t.links).map Link.sight) = _
  rw [reports, ending, links]
  rfl

end Session

/-! ## Other passwords -/

/-- The mark of a password; no password stays none. -/
def mark (password : String) : String :=
  if password.isEmpty then password else LdapConfig.redaction

theorem mark_isEmpty (password : String) : (mark password).isEmpty = password.isEmpty := by
  unfold mark
  split
  · rfl
  · rename_i written
    simp only [Bool.not_eq_true] at written
    rw [written]
    decide

/-- Put the mark in the place of every password. -/
def passwords : Veil where
  identity c := mark c.password
  configured := Option.map mark
  present _ := Option.isSome_map
  fault c := by
    have lacks : ((c.bindPassword.map mark).getD "").isEmpty = c.password.isEmpty := by
      unfold LdapConfig.password
      cases c.bindPassword with
      | none => rfl
      | some p => exact mark_isEmpty p
    unfold LdapConfig.fault? LdapConfig.password
    dsimp only
    rw [lacks]
    rfl
  agrees c _ := by
    change (c.bindPassword.map mark).getD "" = mark (c.bindPassword.getD "")
    cases c.bindPassword with
    | none => rfl
    | some p => rfl

/-- What shows the same under a veil shows the same of any two with other passwords. -/
theorem unseen {α β : Type} [Veilable α] (see : α → β)
    (sight : ∀ a, see (passwords.cover a) = see a) {a a' : α}
    (same : passwords.cover a = passwords.cover a') : see a = see a' :=
  calc see a = see (passwords.cover a) := (sight a).symm
    _ = see (passwords.cover a') := congrArg see same
    _ = see a' := sight a'

/-- A configuration without its password is one whose password is marked. -/
theorem redacted_cover (c : LdapConfig) : (passwords.cover c).redacted = c.redacted := by
  change { c with bindPassword := (c.bindPassword.map mark).map fun _ => LdapConfig.redaction } = _
  rw [Option.map_map]
  rfl

namespace Session

theorem sight_run_cover (host : Network.Host) (files : HostFiles) (listeners : List Listener)
    (script : Script) :
    (run host files listeners (v.cover script)).map Transcript.sight =
      (run host files listeners script).map Transcript.sight := by
  rw [run_cover]
  cases run host files listeners script with
  | none => rfl
  | some t => exact congrArg some (Transcript.sight_cover v t)

/-- Two scripts that are the same up to what their passwords are, where there are some, cannot
be told apart by anything their sessions answer, report, warn of or send but for the passwords
of binds; nor can two such configurations by what they show or by what is left of them without
their passwords. -/
theorem passwords_unseen (host : Network.Host) (files : HostFiles) (listeners : List Listener)
    {script script' : Script} (same : passwords.cover script = passwords.cover script')
    {config config' : LdapConfig} (alike : passwords.cover config = passwords.cover config') :
    (run host files listeners script).map Transcript.sight =
        (run host files listeners script').map Transcript.sight ∧
      config.shown.render = config'.shown.render ∧ config.redacted = config'.redacted := by
  refine ⟨?_, ?_, unseen LdapConfig.redacted redacted_cover alike⟩
  · exact unseen (fun script => (run host files listeners script).map Transcript.sight)
      (sight_run_cover host files listeners) same
  · rw [unseen LdapConfig.shown (LdapConfig.cover_shown passwords) alike]

/-- The settings of a client that binds with this password and surfaces referrals. -/
def bindingWith (password : String) : LdapConfig :=
  { host := "h", baseDn := "dc=x", bindDn := "cn=a", bindPassword := some password,
    referral := .throw }

/-- A session that binds with a password twice, is referred elsewhere, and shows all it has. -/
def telling (password : String) : Script :=
  .act (.makeFactory (bindingWith password) none "f") none <|
  .act (.showFactory "f") none <|
  .act (.obtain "f" .throw none none "m") none <|
  .act (.perform "m" (.unbind "cn=b") "x") (some "r") <|
  .act (.showReferral "r") none <|
  .act (.openReferral "r" "c") none <|
  .act (.showContext "c") none .done

/-- A server that refers the deletion of an entry to itself. -/
def referring : List Listener :=
  [{ address := "h:389"
     scripts := [[{}, { result := { code := 10, refs := ["ldap://h/dc=y"] } }]] }]

theorem passwords_unseen_of_two :
    telling "swordfish" ≠ telling "hunter2" ∧
      passwords.cover (telling "swordfish") = passwords.cover (telling "hunter2") ∧
      (run .loopback HostFiles.absent referring (telling "swordfish")).map Transcript.sight =
        (run .loopback HostFiles.absent referring (telling "hunter2")).map Transcript.sight ∧
      (run .loopback HostFiles.absent referring (telling "swordfish")).isSome ∧
      (bindingWith "swordfish").shown.render = (bindingWith "hunter2").shown.render := by
  have same : passwords.cover (telling "swordfish") = passwords.cover (telling "hunter2") := rfl
  have alike : passwords.cover (bindingWith "swordfish") =
      passwords.cover (bindingWith "hunter2") := rfl
  have unseen := passwords_unseen .loopback HostFiles.absent referring same alike
  refine ⟨?_, same, unseen.1, by decide +kernel, unseen.2.1⟩
  intro same
  injection same with factory
  injection factory with config
  injection config with _ _ _ _ _ _ password
  injection password with text
  exact absurd text (by decide)

end Session

end ManagedLdap
