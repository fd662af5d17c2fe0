/-
# ManagedLdap.Proofs.Ldap.References -- what becomes of continuation references

A search may pass references to other servers on its way.  A context that surfaces referrals
is to hand them to its reader after the last entry; one that does not is to leave them out.
Which of the two it does is settled when the search starts: the cursor keeps what the context
was then (`search_starts`), and nothing done to the properties of the context later reaches it
(`reports_of_turns`).

`terminal_reports` says exactly which references come through.  After a success it is all of
them, in order.  After a referral result it is the addresses of that result and no others:
the references passed on the way are lost (`reference_lost_before_referral`), and so are
addresses that a success carries against the protocol.
-/
import ManagedLdap.Proofs.Ldap.LazySearch

namespace ManagedLdap

set_option autoImplicit false

open Act (Talks)

/-! ## Who reports referrals -/

namespace DirError

/-- Whether an error carries addresses to go on at. -/
def isReferral : DirError → Bool
  | .referral _ => true
  | _ => false

theorem isReferral_ofResult (result : LdapResult) (name : String) :
    (ofResult result name).isReferral = false := by
  unfold ofResult
  dsimp only
  split <;> rfl

theorem isReferral_ofClient (e : ClientError) : (ofClient e).isReferral = false := by
  cases e with
  | result r => exact isReferral_ofResult r r.matched
  | _ => rfl

end DirError

namespace Failure

/-- Whether a failure carries addresses to go on at. -/
def isReferral : Failure → Bool
  | .error e => e.isReferral
  | .panic => false

end Failure

namespace ReferralOrigin

/-- The referral of a search below `base` to these addresses. -/
def referralTo (o : ReferralOrigin) (base : String) (urls : List String) : Failure :=
  .error (.referral (.ldap { urls := urls, index := 0, target := base, origin := o }))

/-- What stands for a referral that is not surfaced. -/
def notFollowed (base : String) : Failure :=
  .error (.partialResult ("referral for " ++ base ++ " not followed"))

theorem error_eq (o : ReferralOrigin) (urls : List String) (base : String) :
    Failure.error (o.error urls base) =
      if o.mode = .throw ∧ urls ≠ [] then o.referralTo base urls else notFollowed base := by
  unfold ReferralOrigin.error
  split <;> rfl

end ReferralOrigin

namespace SearchCursor

variable {κ : Type}

/-! ## The end of a search -/

/-- What a search below `base` reports after its entries, when these are the addresses of the
references it received. -/
structure Reports (origin : ReferralOrigin) (base : String) (received : List String)
    (ending : SearchEnd) (error : Option Failure) : Prop where
  /-- After a success: all addresses received, in order, if referrals are surfaced. -/
  success : ∀ r, ending = .result r → r.code = 0 →
    error = if origin.mode = .throw ∧ received ≠ [] then some (origin.referralTo base received)
      else none
  /-- After a referral: the addresses it carries, and none of those received before. -/
  referral : ∀ r, ending = .result r → r.code = 10 →
    error = some (if origin.mode = .throw ∧ r.refs ≠ [] then origin.referralTo base r.refs
      else ReferralOrigin.notFollowed base)
  /-- Where referrals are not surfaced, none is reported, however the search ends. -/
  ignored : origin.mode = .ignore → ∀ f, error = some f → f.isReferral = false

/-- A new cursor keeps the references it passes if referrals are surfaced. -/
theorem keepReferences_new (s : Client.SearchStream) (base : String) (origin : ReferralOrigin)
    (urls : List String) :
    (new s.link s base origin).keepReferences urls =
      { new s.link s base origin with references := if origin.mode = .throw then urls else [] } := by
  unfold keepReferences
  by_cases surfaced : origin.mode = .throw
  · have kept : (new s.link s base origin).origin.mode = .throw := surfaced
    rw [if_pos kept, if_pos surfaced]
    rfl
  · have dropped : ¬ (new s.link s base origin).origin.mode = .throw := surfaced
    rw [if_neg dropped, if_neg surfaced]
    rfl

/-- The verdict on the result of a search that received these references. -/
theorem terminal_new (s : Client.SearchStream) (base : String) (origin : ReferralOrigin)
    (received : List String) (r : LdapResult) :
    (new s.link s base origin).terminal received (.result r) =
      if r.code = 0 then
        if origin.mode = .throw ∧ received ≠ [] then some (origin.referralTo base received) else none
      else if r.code = 10 then
        some (if origin.mode = .throw ∧ r.refs ≠ [] then origin.referralTo base r.refs
          else ReferralOrigin.notFollowed base)
      else some (.error (.ofResult r base)) := by
  rw [terminal, keepReferences_new, verdict]
  by_cases success : r.code = 0
  · rw [if_pos success, if_pos success]
    by_cases surfaced : origin.mode = .throw
    · cases received with
      | nil => simp [surfaced]
      | cons url urls => simp [new, surfaced, ReferralOrigin.error_eq]
    · simp [surfaced]
  · rw [if_neg success, if_neg success]
    by_cases referral : r.code = 10
    · rw [if_pos referral, if_pos referral, Option.map_some]
      exact congrArg some (origin.error_eq r.refs base)
    · rw [if_neg referral, if_neg referral]
      rfl

theorem terminal_reports (s : Client.SearchStream) (base : String) (origin : ReferralOrigin)
    (received : List String) (ending : SearchEnd) :
    Reports origin base received ending ((new s.link s base origin).terminal received ending) where
  success := by
    rintro r rfl success
    rw [terminal_new, if_pos success]
  referral := by
    rintro r rfl referral
    have failed : r.code ≠ 0 := by omega
    rw [terminal_new, if_neg failed, if_pos referral]
  ignored := by
    intro ignores f reported
    have hidden : ¬ origin.mode = .throw := by
      rw [ignores]
      decide
    cases ending with
    | result r =>
        rw [terminal_new] at reported
        simp only [hidden, false_and, if_false] at reported
        by_cases success : r.code = 0
        · simp [success] at reported
        · by_cases referral : r.code = 10
          · simp only [if_neg success, if_pos referral, Option.some.injEq] at reported
            rw [← reported]
            rfl
          · simp only [if_neg success, if_neg referral, Option.some.injEq] at reported
            rw [← reported]
            exact DirError.isReferral_ofResult r base
    | failed e =>
        obtain rfl := Option.some.inj reported
        exact DirError.isReferral_ofClient e
    | unreadable =>
        obtain rfl := Option.some.inj reported
        rfl

/-! ## The failures of a run -/

namespace Owed

/-- Whatever failure a pull reports is the one that is owed. -/
theorem error_of_answer {o : Owed} {p : Pull} {f : Failure} (fails : o.answer p = .error f) :
    o.error = some f := by
  match o with
  | ⟨_ :: _, _⟩ => cases fails
  | ⟨[], none⟩ => cases fails
  | ⟨[], some g⟩ => exact congrArg some (Except.error.inj fails)

theorem after_error_or (o : Owed) (p : Pull) :
    (o.after p).error = o.error ∨ (o.after p).error = none := by
  match o, p with
  | ⟨_ :: _, _⟩, .hasMore => exact .inl rfl
  | ⟨_ :: _, _⟩, .next => exact .inl rfl
  | ⟨[], none⟩, _ => exact .inl rfl
  | ⟨[], some .panic⟩, _ => exact .inl rfl
  | ⟨[], some (.error _)⟩, _ => exact .inr rfl

theorem afterAll_error_or (o : Owed) (pulls : List Pull) :
    (o.afterAll pulls).error = o.error ∨ (o.afterAll pulls).error = none := by
  induction pulls generalizing o with
  | nil => exact .inl rfl
  | cons p pulls ih =>
      rw [afterAll, List.foldl_cons, ← afterAll]
      rcases ih (o.after p) with same | gone
      · rw [same]
        exact o.after_error_or p
      · exact .inr gone

end Owed

/-- No pull of a run fails with anything but the failure the cursor owed at first. -/
theorem failure_of_run {k : LinkId} {controls : List Control} {pulls : List Pull}
    {x : SearchCursor × World κ} (lies : Over k controls x.1) {r : Report κ}
    (among : r ∈ reports pulls x) {f : Failure} (failed : r.outcome = .error f) :
    (x.1.owed x.2.network).error = some f := by
  obtain ⟨earlier, later, split⟩ := List.append_of_mem among
  obtain ⟨before, p, after, rfl, rfl, rfl, rfl⟩ := reports_split split
  rw [(report_owed before p lies).1] at failed
  have pending := Owed.error_of_answer failed
  rcases (x.1.owed x.2.network).afterAll_error_or before with same | gone
  · rw [← same, pending]
  · rw [gone] at pending
    cases pending

/-! ## The reader's side -/

/-- What a reader does while a search lasts: pull from its cursor, or change the properties or
controls of the context that started it. -/
inductive Turn where
  | pull (p : Pull)
  | adjust (op : Op) (stays : LdapDirContext.isLocal op = true)

namespace Turn

/-- The pull that a turn makes, if it makes one. -/
def pull? : Turn → Option Pull
  | .pull p => some p
  | .adjust _ _ => none

/-- The reports of the pulls among some turns, which are taken one after another. -/
def reports : List Turn → LdapDirContext → SearchCursor × World κ → List (Report κ)
  | [], _, _ => []
  | .pull p :: turns, c, x => p.report x :: reports turns c (p.report x).after
  | .adjust op _ :: turns, c, x =>
      match LdapDirContext.perform op c x.2 with
      | (_, c, w) => reports turns c (x.1, w)

end Turn

/-- What is done to the properties of the context does not reach the cursor. -/
theorem reports_of_turns (turns : List Turn) (c : LdapDirContext) (x : SearchCursor × World κ) :
    Turn.reports turns c x = reports (turns.filterMap Turn.pull?) x := by
  induction turns generalizing c x with
  | nil => rfl
  | cons turn turns ih =>
      cases turn with
      | pull p => exact congrArg (p.report x :: ·) (ih c (p.report x).after)
      | adjust op stays =>
          obtain ⟨reply, c', performed, -⟩ := LdapDirContext.perform_local stays c x.2
          rw [Turn.reports, performed]
          exact ih c' x

end SearchCursor

/-! ## The start of a search -/

namespace LdapDirContext

variable {κ : Type}

/-- The cursor of a search reads a stream of its own, which asks for what the context was asked
for and with its controls, and keeps what the context was. -/
theorem search_streams {c c' : LdapDirContext} {name filter : String} {controls : SearchControls}
    {w w' : World κ} {cursor : SearchCursor}
    (started : search name filter controls c w = (.ok cursor, c', w')) :
    ∃ s tree, cursor = .new s.link s (c.resolve name) c.origin ∧ c.connection = some s.link ∧
      s.Serves s.link c.patience c.requestControls (c.paging controls)
        ((searchSpec (c.resolve name) filter controls).toRequest tree) := by
  cases held : c.connection with
  | none =>
      simp only [search, linkOf, held, Act.bind_apply, Act.self_apply, Act.fail_apply] at started
      cases started
  | some link =>
      simp only [search, linkOf, held, Act.bind_apply, Act.self_apply, Act.pure_apply] at started
      have size : (if c.pageSize controls > 0 then some (c.pageSize controls) else none) =
          c.paging controls := rfl
      rw [size] at started
      have serves : Talks (some link) (fun _ => True) (fun _ => True)
          (fun s => ∃ tree, s.Serves link c.patience c.requestControls (c.paging controls)
            ((searchSpec (c.resolve name) filter controls).toRequest tree))
          (Client.orFail (Client.startSearch link c.patience c.requestControls (c.paging controls)
            (searchSpec (c.resolve name) filter controls)) : Act κ LdapDirContext _) :=
        Client.orFail_talks (Client.startSearch_talks fun _ => trivial)
      obtain ⟨-, -, met⟩ := serves c w trivial
      generalize Client.orFail (Client.startSearch link c.patience c.requestControls
        (c.paging controls) (searchSpec (c.resolve name) filter controls)) c w = x at started met
      obtain ⟨failure | s, c₁, w₁⟩ := x
      · cases started
      · obtain ⟨tree, serves⟩ := met s rfl
        obtain rfl := serves.link
        exact ⟨s, tree, (Except.ok.inj (Prod.mk.inj started).1).symm, rfl, serves⟩

/-- The cursor of a search reads a stream of its own and keeps what the context was. -/
theorem search_starts {c c' : LdapDirContext} {name filter : String} {controls : SearchControls}
    {w w' : World κ} {cursor : SearchCursor}
    (started : search name filter controls c w = (.ok cursor, c', w')) :
    ∃ s, cursor = .new s.link s (c.resolve name) c.origin := by
  obtain ⟨s, -, made, -⟩ := search_streams started
  exact ⟨s, made⟩

/-- A reply made from the value of a call holds no cursor if it never does. -/
theorem map_no_cursor {α : Type} {x : Act κ LdapDirContext α}
    {reply : α → Reply LdapDirContext SearchCursor} {cursor : SearchCursor}
    (other : ∀ a, reply a ≠ .entries cursor) (c : LdapDirContext) (w : World κ) :
    ((reply <$> x) c w).1 ≠ .ok (.entries cursor) := by
  intro handed
  rw [Act.map_apply] at handed
  dsimp only at handed
  cases made : (x c w).1 with
  | error f =>
      rw [made] at handed
      cases handed
  | ok a =>
      rw [made] at handed
      exact other a (Except.ok.inj handed)

theorem done_no_cursor {x : Act κ LdapDirContext Unit} {cursor : SearchCursor}
    (c : LdapDirContext) (w : World κ) :
    ((do x; return .done : Act κ LdapDirContext (Reply LdapDirContext SearchCursor)) c w).1 ≠
      .ok (.entries cursor) := by
  rw [bind_pure_comp]
  refine map_no_cursor ?_ c w
  exact fun _ => nofun

/-- Only a search hands out a cursor, however it is stated. -/
theorem perform_searches {c c' : LdapDirContext} {op : Op} {w w' : World κ} {cursor : SearchCursor}
    (started : perform op c w = (.ok (.entries cursor), c', w')) :
    ∃ name filter controls, search name filter controls c w = (.ok cursor, c', w') := by
  have handed : (perform op c w).1 = .ok (.entries cursor) := congrArg Prod.fst started
  have searched : ∀ {name filter : String} {controls : SearchControls},
      (Reply.entries <$> search name filter controls :
        Act κ LdapDirContext (Reply LdapDirContext SearchCursor)) c w =
        (.ok (.entries cursor), c', w') → ∃ name filter controls,
          search name filter controls c w = (.ok cursor, c', w') := by
    intro name filter controls mapped
    rw [Act.map_apply] at mapped
    rcases found : search name filter controls c w with ⟨f | own, c₁, w₁⟩
    · rw [found] at mapped
      cases mapped
    · rw [found] at mapped
      cases mapped
      exact ⟨name, filter, controls, found⟩
  cases op with
  | search name filter controls => exact searched started
  | searchByAttributes name matching ids => exact searched started
  | searchWithArgs name expr args controls =>
      simp only [perform, searchWithArgs] at started
      cases filled : Filter.substitute expr args with
      | ok filter =>
          rw [filled] at started
          exact searched started
      | error fault =>
          rw [filled] at started
          cases started
  | _ =>
      first
      | exact absurd handed (done_no_cursor c w)
      | refine absurd handed (map_no_cursor ?_ c w)
        exact fun _ => nofun

/-- A cursor starts with the properties of the moment. -/
theorem perform_starts {c c' : LdapDirContext} {op : Op} {w w' : World κ} {cursor : SearchCursor}
    (started : perform op c w = (.ok (.entries cursor), c', w')) :
    ∃ s base, cursor = .new s.link s base c.origin := by
  obtain ⟨name, filter, controls, searched⟩ := perform_searches started
  obtain ⟨s, made⟩ := search_starts searched
  exact ⟨s, _, made⟩

end LdapDirContext

/-! ## References at the end of a search -/

namespace SearchCursor

variable {κ : Type}

/-- **References at the end.**  A context starts a search, in whatever way; then its cursor is
pulled, while the properties of the context change.  The reader gets all entries and then what
`Reports` says, by the way referrals were surfaced when the search started: after a success all
references received, in order; after a referral the addresses of the result alone; nothing of
either where referrals are not surfaced, and then no pull ever reports a referral. -/
theorem references_at_end {c c' : LdapDirContext} {op : Op} {w w' : World κ}
    {cursor : SearchCursor}
    (started : LdapDirContext.perform op c w = (.ok (.entries cursor), c', w'))
    (turns : List Turn) :
    ∃ s base, cursor = .new s.link s base c.origin ∧ ∃ error,
      Delivers ((Client.entries (s.unread w'.network).1).map fun e =>
        (s.library.construct e).result base) error (Turn.reports turns c' (cursor, w')) ∧
      Reports c.origin base (Client.references (s.unread w'.network).1) (s.unread w'.network).2
        error ∧
      (c.referralMode = .ignore → ∀ r ∈ Turn.reports turns c' (cursor, w'),
        ∀ f, r.outcome = .error f → f.isReferral = false) := by
  obtain ⟨s, base, rfl⟩ := LdapDirContext.perform_starts started
  have reported := terminal_reports s base c.origin (Client.references (s.unread w'.network).1)
    (s.unread w'.network).2
  have lies : Over s.link s.controls (new s.link s base c.origin) := .new s base c.origin
  refine ⟨s, base, rfl, _, ?_, reported, ?_⟩
  · rw [reports_of_turns]
    exact reports_deliver _ (x := (new s.link s base c.origin, w')) lies
  · intro ignores r among f failed
    rw [reports_of_turns] at among
    exact reported.ignored ignores f (failure_of_run (x := (_, w')) lies among failed)

/-! A small run: a server that answers a search with a reference and then this result. -/

/-- A network with one connection to that server. -/
def referring (r : LdapResult) : World Unit :=
  { network :=
      { refusal := ""
        links :=
          [{ address := "h:389"
             script := [{ messages := [.reference ["ldap://a/dc=x"]], result := r }]
             sent := []
             isOpen := true
             shares := 1 }] } }

/-- A context on that connection which surfaces referrals. -/
def surfacing : LdapDirContext :=
  { connection := some 0
    url := "ldap://h"
    base := "dc=x"
    config := { host := "h", referral := .throw, pageSize := 0 }
    credentials := ⟨"", ""⟩
    environment := .empty
    connectControls := []
    requestControls := []
    responseControls := [] }

/-- A search for everything below that context. -/
def searchAllBelow : Op := .search "" Filter.matchAll (SearchControls.ofScope .subtree)

/-- Whether a call handed out a cursor. -/
def handsCursor : Except Failure (Reply LdapDirContext SearchCursor) → Bool
  | .ok (.entries _) => true
  | _ => false

theorem exists_of_handsCursor {r : Except Failure (Reply LdapDirContext SearchCursor)}
    (hands : handsCursor r = true) : ∃ cursor, r = .ok (.entries cursor) := by
  unfold handsCursor at hands
  split at hands
  · exact ⟨_, rfl⟩
  · cases hands

/-- The search succeeds and reports the reference, although referrals are ignored from then
on. -/
theorem references_at_end_of_success :
    let turns : List Turn :=
      [.adjust (.addToEnvironment Property.referral "ignore") rfl, .pull .hasMore, .pull .next]
    ∃ cursor c' w',
      LdapDirContext.perform searchAllBelow surfacing (referring {}) =
        (.ok (.entries cursor), c', w') ∧
      ∃ s base, cursor = .new s.link s base surfacing.origin ∧ ∃ error,
        Delivers ((Client.entries (s.unread w'.network).1).map fun e =>
          (s.library.construct e).result base) error (Turn.reports turns c' (cursor, w')) ∧
        Reports surfacing.origin base (Client.references (s.unread w'.network).1)
          (s.unread w'.network).2 error := by
  intro turns
  have hands : handsCursor
      (LdapDirContext.perform searchAllBelow surfacing (referring {})).1 = true := by
    decide +kernel
  obtain ⟨cursor, handed⟩ := exists_of_handsCursor hands
  rcases made : LdapDirContext.perform searchAllBelow surfacing (referring {}) with ⟨r, c', w'⟩
  rw [made] at handed
  obtain rfl : r = .ok (.entries cursor) := handed
  obtain ⟨s, base, new, error, delivers, reported, -⟩ := references_at_end made turns
  exact ⟨cursor, c', w', rfl, s, base, new, error, delivers, reported⟩

/-- A page that was received before its search ended in a referral to another server. -/
def referredPage : Client.SearchStream :=
  { link := 0
    request :=
      { base := "dc=x", scope := .subtree, sizeLimit := 0, timeLimit := 0, typesOnly := false,
        filter := .present "objectClass", attributes := ["*"] }
    controls := []
    pageSize := none
    patience := none
    library := .standard
    first := 0
    messages := [.reference ["ldap://a/dc=x"]]
    ending := .result { code := 10, refs := ["ldap://b/dc=x"] }
    latest := 0 }

/-- Not every reference received is reported: when the search ends in a referral to `b`, the
reference to `a` that it received before is lost, although referrals are surfaced. -/
theorem reference_lost_before_referral :
    ¬ ∀ (s : Client.SearchStream) (base : String) (origin : ReferralOrigin) (w : World Unit)
        (pulls : List Pull) (r : LdapResult),
      origin.mode = .throw → (s.unread w.network).2 = .result r → r.code = 0 ∨ r.code = 10 →
      ∀ earlier report later,
        reports pulls (new s.link s base origin, w) = earlier ++ report :: later →
        taken earlier = (Client.entries (s.unread w.network).1).map
          (fun e => (s.library.construct e).result base) →
        ¬ PastEnd (taken earlier) earlier →
        ∀ url ∈ Client.references (s.unread w.network).1,
          ∃ referral, report.outcome = .error (.error (.referral referral)) ∧
            url ∈ referral.urls := by
  intro kept
  have unread : referredPage.unread (referring {}).network =
      ([.reference ["ldap://a/dc=x"]], .result { code := 10, refs := ["ldap://b/dc=x"] }) := rfl
  have first : ¬ PastEnd ([] : List SearchResult) ([] : List (Report Unit)) := by
    rintro ⟨before, r, after, split, -⟩
    simp at split
  obtain ⟨referral, reported, among⟩ := kept referredPage "dc=x" surfacing.origin (referring {})
    [.next] { code := 10, refs := ["ldap://b/dc=x"] } rfl (by rw [unread]) (.inr rfl) []
    (Pull.next.report _) [] rfl (by rw [unread]; rfl) first "ldap://a/dc=x"
    (by rw [unread]; decide)
  have outcome : (Pull.next.report (new referredPage.link referredPage "dc=x" surfacing.origin,
      referring {})).outcome =
      .error (surfacing.origin.referralTo "dc=x" ["ldap://b/dc=x"]) := rfl
  rw [outcome] at reported
  obtain rfl := DirError.referral.inj (Failure.error.inj (Except.error.inj reported))
  exact absurd among (by decide)

end SearchCursor

end ManagedLdap
