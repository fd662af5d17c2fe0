/-
# ManagedLdap.Proofs.Ldap.Controls -- which controls every request bears

What a tally says of a family is so (`Agrees`), and it stays so whatever is done (`step_agrees`).
Meanwhile every request that is sent bears the controls that the tally demands (`step_said`).
Since a family starts with an empty tally, this holds along every run (`requests_bear_controls`).
-/
import ManagedLdap.Proofs.Ldap.Tally

namespace ManagedLdap

set_option autoImplicit false

variable {κ : Type}

/-! ## What the tally says is so -/

/-- Whoever is in a place has to do with the entry of that place; nobody has to be there. -/
def Tracks {α β : Type} (R : α → β → Prop) (xs : List (Option α)) (ys : List β) : Prop :=
  xs.length = ys.length ∧
    ∀ (i : Nat) (a : α), xs[i]? = some (some a) → ∃ b, ys[i]? = some b ∧ R a b

namespace Tracks

variable {α β : Type} {R : α → β → Prop} {xs : List (Option α)} {ys : List β} {a : α} {b : β}
  {i : Nat}

theorem join (tracks : Tracks R xs ys) (related : R a b) :
    Tracks R (xs ++ [some a]) (ys ++ [b]) := by
  obtain ⟨length, entries⟩ := tracks
  refine ⟨by simp [length], fun i a' found => ?_⟩
  rcases Nat.lt_or_ge i xs.length with old | new
  · rw [List.getElem?_append_left old] at found
    rw [List.getElem?_append_left (length ▸ old)]
    exact entries i a' found
  · rw [List.getElem?_append_right new] at found
    rw [List.getElem?_append_right (length ▸ new), ← length]
    obtain ⟨inside, same⟩ := List.getElem?_eq_some_iff.1 found
    have place : i - xs.length = 0 := Nat.lt_one_iff.1 inside
    rw [place] at found ⊢
    obtain rfl := Option.some.inj (Option.some.inj found)
    exact ⟨b, rfl, related⟩

/-- Somebody becomes another, and the entry with them. -/
theorem become (tracks : Tracks R xs ys) (found : xs[i]? = some (some a)) {a' : α} {f : β → β}
    (keeps : ∀ b, R a b → R a' (f b)) : Tracks R (xs.set i (some a')) (ys.modify i f) := by
  obtain ⟨length, entries⟩ := tracks
  refine ⟨by simp [length], fun j x there => ?_⟩
  rw [List.getElem?_set] at there
  rw [List.getElem?_modify]
  by_cases here : i = j
  · subst here
    obtain ⟨b, entry, related⟩ := entries i a found
    have inside : i < xs.length := (List.getElem?_eq_some_iff.1 found).1
    rw [if_pos rfl, if_pos inside] at there
    obtain rfl := Option.some.inj (Option.some.inj there)
    refine ⟨f b, ?_, keeps b related⟩
    simp [entry]
  · rw [if_neg here] at there
    obtain ⟨b, entry, related⟩ := entries j x there
    exact ⟨b, by simp [entry, here], related⟩

theorem stay (tracks : Tracks R xs ys) (found : xs[i]? = some (some a)) {a' : α}
    (keeps : ∀ b, R a b → R a' b) : Tracks R (xs.set i (some a')) ys := by
  have same := tracks.become found (f := id) keeps
  rwa [List.modify_id] at same

theorem leave (tracks : Tracks R xs ys) (i : Nat) : Tracks R (xs.set i none) ys := by
  obtain ⟨length, entries⟩ := tracks
  refine ⟨by simp [length], fun j a there => ?_⟩
  rw [List.getElem?_set] at there
  split at there
  · split at there <;> cases there
  · exact entries j a there

end Tracks

/-- A cursor that keeps to the terms of its search. -/
def SearchCursor.Bound (cursor : SearchCursor) (entry : Holding × Option Int) : Prop :=
  cursor.Keeps ⟨cursor.link, entry.1.request, entry.2, cursor.origin⟩ ∧
    cursor.origin.connectControls = entry.1.connect

namespace Family

/-- How the operation of a dealing is paged. -/
def paging (a : Family κ) : Dealing → Option Int
  | .move (.perform i op) _ =>
      match a.fleet.contexts[i]? with
      | some (some c) => c.pagingOf op
      | _ => none
  | _ => none

/-- What came of a dealing. -/
def upshot (a : Family κ) (d : Dealing) : Upshot :=
  match a.told d with
  | some (.ok (.context _)) => .context
  | some (.ok (.entries _)) => .search (a.paging d)
  | some (.ok _) => .done
  | some (.error f) =>
      match f.received? with
      | some _ => .referral
      | none => .failed
  | none => .failed

/-- The tally is right about a family. -/
structure Agrees (a : Family κ) (t : Tally) : Prop where
  contexts : Tracks (fun c h => c.holding = h) a.fleet.contexts t.contexts
  searches : Tracks SearchCursor.Bound a.fleet.cursors t.searches
  referrals : t.referrals = a.referrals.map fun r => r.origin.connectControls

variable {a : Family κ} {t : Tally}

theorem Agrees.context (agrees : a.Agrees t) {i : Nat} {c : LdapDirContext}
    (found : a.fleet.contexts[i]? = some (some c)) : t.context i = c.holding := by
  obtain ⟨h, entry, rfl⟩ := agrees.contexts.2 i c found
  rw [Tally.context, entry]
  rfl

theorem Agrees.search (agrees : a.Agrees t) {j : Nat} {cursor : SearchCursor}
    (found : a.fleet.cursors[j]? = some (some cursor)) : cursor.Bound (t.search j) := by
  obtain ⟨entry, there, bound⟩ := agrees.searches.2 j cursor found
  rw [Tally.search, there]
  exact bound

theorem Agrees.referral (agrees : a.Agrees t) {n : Nat} {r : LdapReferral}
    (found : a.referrals[n]? = some r) : t.referral n = r.origin.connectControls := by
  rw [Tally.referral, agrees.referrals, List.getElem?_map, found]
  rfl

/-- A context is used and keeps its controls. -/
theorem Agrees.stay (agrees : a.Agrees t) {i : Nat} {c c' : LdapDirContext}
    (found : a.fleet.contexts[i]? = some (some c)) (same : c'.holding = c.holding) :
    Tracks (fun c h => c.holding = h) (a.fleet.contexts.set i (some c')) t.contexts :=
  agrees.contexts.stay found fun _ holds => same.trans holds

/-- A context changes its controls, and its entry changes alike. -/
theorem Agrees.become (agrees : a.Agrees t) {i : Nat} {c c' : LdapDirContext}
    (found : a.fleet.contexts[i]? = some (some c)) {op : Op}
    (same : c'.holding = c.holding.after op) :
    Tracks (fun c h => c.holding = h) (a.fleet.contexts.set i (some c'))
      (t.contexts.modify i fun h => h.after op) := by
  refine agrees.contexts.become found fun h holds => ?_
  rw [same, holds]

/-- No referral was told. -/
theorem Agrees.nothing (agrees : a.Agrees t) :
    t.referrals = (a.referrals ++ []).map fun r : LdapReferral => r.origin.connectControls := by
  rw [List.append_nil]
  exact agrees.referrals

/-- A dealing that leaves contexts and cursors to their entries, and brings nothing. -/
theorem Agrees.quiet (agrees : a.Agrees t) {f : Fleet κ}
    (contexts : Tracks (fun c h => c.holding = h) f.contexts t.contexts)
    (searches : Tracks SearchCursor.Bound f.cursors t.searches) :
    Agrees ⟨f, a.referrals ++ []⟩ t :=
  ⟨contexts, searches, agrees.nothing⟩

/-- A referral that was told joins on both sides. -/
theorem Agrees.receive (agrees : a.Agrees t) (r : LdapReferral) :
    t.referrals ++ [r.origin.connectControls] =
      (a.referrals ++ [r]).map fun r => r.origin.connectControls := by
  rw [agrees.referrals, List.map_append]
  rfl

/-! ### Opening -/

theorem opened_agrees (agrees : a.Agrees t) {controls : List Control}
    {x : Act κ Unit LdapDirContext} (opens : LdapDirContext.OpensWith controls x) :
    Agrees ⟨a.fleet.opened x,
        a.referrals ++ (brought (some ((x () a.fleet.world).1.map .context))).toList⟩
      (match (x () a.fleet.world).1 with
        | .ok _ => { t with contexts := t.contexts ++ [{ connect := controls }] }
        | .error _ => t) := by
  obtain ⟨-, -, -, came⟩ := opens a.fleet.world
  unfold Fleet.opened
  generalize (x () a.fleet.world).1 = outcome at came
  cases outcome with
  | error f =>
      replace came : f.received? = none := came
      simp only [Except.map, brought, came]
      exact agrees.quiet agrees.contexts agrees.searches
  | ok c =>
      obtain ⟨request, connect⟩ := came
      have holds : c.holding = { connect := controls } := by
        rw [LdapDirContext.holding, request, connect]
      exact ⟨agrees.contexts.join holds, agrees.searches, agrees.nothing⟩

theorem record_connect (t : Tally) (a : Family κ) (config : LdapConfig)
    (credentials : Credentials) (env : Environment) :
    t.record (.connect config credentials env) (a.upshot (.connect config credentials env)) =
      match (LdapDirContext.connect config credentials env () a.fleet.world).1 with
      | .ok _ => { t with contexts := t.contexts ++ [{}] }
      | .error _ => t := by
  simp only [upshot, told]
  cases (LdapDirContext.connect config credentials env () a.fleet.world).1 with
  | ok c => rfl
  | error f =>
      simp only [Except.map]
      cases f.received? <;> rfl

theorem record_follow (t : Tally) {a : Family κ} {n : Nat} {r : LdapReferral}
    (found : a.referrals[n]? = some r) :
    t.record (.follow n) (a.upshot (.follow n)) =
      match (r.connect () a.fleet.world).1 with
      | .ok _ => { t with contexts := t.contexts ++ [{ connect := t.referral n }] }
      | .error _ => t := by
  simp only [upshot, told, found]
  cases (r.connect () a.fleet.world).1 with
  | ok c => rfl
  | error f =>
      simp only [Except.map]
      cases f.received? <;> rfl

/-! ### Moves -/

theorem perform_agrees (agrees : a.Agrees t) (i : Nat) (op : Op) :
    (a.step (.move (.perform i op) rfl)).Agrees
      (t.record (.move (.perform i op) rfl) (a.upshot (.move (.perform i op) rfl))) := by
  rcases a.fleet.onContext_cases i (LdapDirContext.perform op) with idle | ⟨c, found, done⟩
  · have told : a.told (.move (.perform i op) rfl) = none := congrArg Prod.fst idle
    have fleet : a.fleet.step (.perform i op) = a.fleet := by simp only [Fleet.step, idle]
    simp only [upshot, step, told, brought, after, fleet, Tally.record]
    exact agrees.quiet agrees.contexts agrees.searches
  · have told : a.told (.move (.perform i op) rfl) =
        some (LdapDirContext.perform op c a.fleet.world).1 := congrArg Prod.fst done
    have paging : a.paging (.move (.perform i op) rfl) = c.pagingOf op := by
      simp only [Family.paging, found]
    have accounted := LdapDirContext.perform_accounted op c a.fleet.world
    simp only [upshot, step, told, paging, after, Fleet.step, done]
    generalize LdapDirContext.perform op c a.fleet.world = y at accounted
    obtain ⟨outcome, c', w'⟩ := y
    cases outcome with
    | error f =>
        obtain ⟨same, origin⟩ := accounted
        cases received : f.received? with
        | none =>
            simp only [received, brought]
            exact agrees.quiet (agrees.stay found same) agrees.searches
        | some r =>
            have followed : (t.context i).connect = r.origin.connectControls := by
              rw [agrees.context found, origin r received]
              rfl
            simp only [received, brought, Tally.record, followed]
            exact ⟨agrees.stay found same, agrees.searches, agrees.receive r⟩
    | ok reply =>
        cases reply with
        | context child =>
            obtain ⟨same, given⟩ := accounted
            refine ⟨(agrees.stay found same).join ?_, agrees.searches, agrees.nothing⟩
            rw [given, agrees.context found]
        | entries cursor =>
            obtain ⟨same, fresh⟩ := accounted
            refine ⟨agrees.stay found same, agrees.searches.join ?_, agrees.nothing⟩
            obtain ⟨link, origin, stream⟩ := fresh.keeps
            rw [agrees.context found]
            exact ⟨⟨rfl, rfl, stream⟩, by rw [origin]; rfl⟩
        | _ => exact ⟨agrees.become found accounted, agrees.searches, agrees.nothing⟩

/-! ### Pulls -/

/-- A call of a cursor that keeps to the terms of its search. -/
theorem onCursor_tracks (agrees : a.Agrees t) (j : Nat) {α : Type} {x : Act κ SearchCursor α}
    (keeps : ∀ terms c w, SearchCursor.Keeps terms c → SearchCursor.Keeps terms (x c w).2.1) :
    Tracks SearchCursor.Bound (a.fleet.onCursor j x).cursors t.searches := by
  rcases a.fleet.onCursor_cases j x with idle | ⟨cursor, found, done⟩
  · rw [idle]
    exact agrees.searches
  · rw [done]
    refine agrees.searches.stay found fun entry ⟨kept, followed⟩ => ?_
    obtain ⟨link, origin, stream⟩ := keeps _ cursor a.fleet.world kept
    exact ⟨⟨rfl, rfl, by rw [link]; exact stream⟩, by rw [origin]; exact followed⟩

/-- Where a pull brings a referral, the cursor of the place failed with it. -/
theorem brought_pulled {f : Fleet κ} {j : Nat} {α : Type} {x : Act κ SearchCursor α}
    {r : LdapReferral} (told : brought (f.pulled j x) = some r) :
    ∃ cursor failure, f.cursors[j]? = some (some cursor) ∧
      (x cursor f.world).1 = .error failure ∧ failure.received? = some r := by
  unfold Fleet.pulled at told
  split at told
  · next cursor found =>
      cases outcome : (x cursor f.world).1 with
      | ok value =>
          rw [outcome] at told
          cases told
      | error failure =>
          rw [outcome] at told
          exact ⟨cursor, failure, found, outcome, told⟩
  · cases told

theorem pull_agrees (agrees : a.Agrees t) (j : Nat) {α : Type} {x : Act κ SearchCursor α}
    (pages : ∀ terms, SearchCursor.Pages terms x)
    (receives : ∀ {k controls c w f r}, SearchCursor.Over k controls c → (x c w).1 = .error f →
      f.received? = some r → r.origin = c.origin) :
    Agrees ⟨a.fleet.onCursor j x, a.referrals ++ (brought (a.fleet.pulled j x)).toList⟩
      (match brought (a.fleet.pulled j x) with
        | some _ => { t with referrals := t.referrals ++ [(t.search j).1.connect] }
        | none => t) := by
  have contexts : Tracks (fun c h => c.holding = h) (a.fleet.onCursor j x).contexts t.contexts :=
    a.fleet.onCursor_contexts j x ▸ agrees.contexts
  have searches := onCursor_tracks agrees j fun terms c w kept => (pages terms c w kept).1
  cases told : brought (a.fleet.pulled j x) with
  | none => exact agrees.quiet contexts searches
  | some r =>
      obtain ⟨cursor, f, found, failed, received⟩ := brought_pulled told
      obtain ⟨kept, followed⟩ := agrees.search found
      have same : (t.search j).1.connect = r.origin.connectControls := by
        rw [receives kept.lies failed received, followed]
      refine ⟨contexts, searches, ?_⟩
      dsimp only
      rw [same]
      exact agrees.receive r

/-- What the tally makes of a pull. -/
theorem record_pull (t : Tally) (a : Family κ) {j : Nat} {d : Dealing}
    (pulls : d = .move (.hasMore j) rfl ∨ d = .move (.next j) rfl) :
    t.record d (a.upshot d) = match brought (a.told d) with
      | some _ => { t with referrals := t.referrals ++ [(t.search j).1.connect] }
      | none => t := by
  unfold upshot
  rcases a.told d with _ | f | reply
  · rcases pulls with rfl | rfl <;> rfl
  · simp only [brought]
    cases f.received? with
    | none => rcases pulls with rfl | rfl <;> rfl
    | some r => rcases pulls with rfl | rfl <;> rfl
  · rcases pulls with rfl | rfl <;> cases reply <;> rfl

/-! ### Leaving -/

/-- A context that is closed keeps its controls. -/
theorem close_agrees (agrees : a.Agrees t) (i : Nat) :
    Agrees ⟨a.fleet.step (.close i), a.referrals ++ []⟩ t := by
  rcases a.fleet.onContext_cases i LdapDirContext.close with idle | ⟨c, found, done⟩
  · simp only [Fleet.step, idle]
    exact agrees.quiet agrees.contexts agrees.searches
  · obtain ⟨w', closed, -⟩ := c.close_network a.fleet.world
    simp only [Fleet.step, done, closed]
    exact agrees.quiet (agrees.stay found rfl) agrees.searches

theorem drop_agrees (agrees : a.Agrees t) (i : Nat) :
    Agrees ⟨a.fleet.step (.drop i), a.referrals ++ []⟩ t := by
  simp only [Fleet.step]
  split
  · exact agrees.quiet (agrees.contexts.leave i) agrees.searches
  · exact agrees.quiet agrees.contexts agrees.searches

theorem dropCursor_agrees (agrees : a.Agrees t) (j : Nat) :
    Agrees ⟨a.fleet.step (.dropCursor j), a.referrals ++ []⟩ t := by
  simp only [Fleet.step]
  split
  · exact agrees.quiet agrees.contexts (agrees.searches.leave j)
  · exact agrees.quiet agrees.contexts agrees.searches

/-- A referral that is moved on is followed with what it was followed with. -/
theorem moved_on (referrals : List LdapReferral) (n : Nat) :
    (referrals.modify n LdapReferral.skipped).map (fun r => r.origin.connectControls) =
      referrals.map fun r => r.origin.connectControls := by
  refine List.ext_getElem? fun i => ?_
  rw [List.getElem?_map, List.getElem?_map, List.getElem?_modify]
  cases referrals[i]? with
  | none => rfl
  | some r =>
      by_cases here : n = i
      · simp [here, r.skipped_origin]
      · simp [here]

/-! ### All dealings -/

/-- **The step.**  Whatever is done, the tally stays right. -/
theorem step_agrees (agrees : a.Agrees t) (d : Dealing) :
    (a.step d).Agrees (t.record d (a.upshot d)) := by
  cases d with
  | connect config credentials env =>
      rw [record_connect]
      exact opened_agrees agrees (LdapDirContext.openAt_opensWith _ _ _ _ _ _)
  | follow n =>
      cases found : a.referrals[n]? with
      | none =>
          simp only [upshot, step, told, brought, after, found]
          exact agrees.quiet agrees.contexts agrees.searches
      | some r =>
          rw [record_follow t found, agrees.referral found]
          have opened := opened_agrees agrees r.connect_opensWith
          simpa only [step, told, after, found] using opened
  | skip n =>
      refine ⟨agrees.contexts, agrees.searches, agrees.referrals.trans ?_⟩
      change _ = (a.referrals.modify n LdapReferral.skipped ++ []).map _
      rw [List.append_nil, moved_on]
  | move m others =>
      cases m with
      | openAt url base config credentials env controls => cases others
      | perform i op => exact perform_agrees agrees i op
      | close i => exact close_agrees agrees i
      | drop i => exact drop_agrees agrees i
      | hasMore j =>
          rw [record_pull t a (.inl rfl)]
          exact pull_agrees agrees j (x := SearchCursor.hasMore) SearchCursor.hasMore_pages
            fun lies failed => SearchCursor.hasMore_received lies failed
      | next j =>
          rw [record_pull t a (.inr rfl)]
          exact pull_agrees agrees j (x := SearchCursor.next) SearchCursor.next_pages
            fun lies failed => SearchCursor.next_received lies failed
      | closeCursor j =>
          refine agrees.quiet (a.fleet.onCursor_contexts j SearchCursor.close ▸ agrees.contexts)
            (onCursor_tracks agrees j fun terms c w kept => ?_)
          have abandons := SearchCursor.close_abandons (κ := κ) terms (P := fun _ => True)
            fun _ => trivial
          exact (abandons c w kept).1
      | dropCursor j => exact dropCursor_agrees agrees j
      | withSlot slot => exact agrees.quiet agrees.contexts agrees.searches

/-! ## What is said meanwhile -/

/-- A call of a cursor, by what it may say on the terms of its search. -/
theorem onCursor_said {f : Fleet κ} {j : Nat} {α : Type} {x : Act κ SearchCursor α}
    {P : SentRequest → Prop}
    (talks : ∀ cursor, f.cursors[j]? = some (some cursor) →
      ∃ terms, SearchCursor.Keeps terms cursor ∧
        Act.Talks (some terms.link) P (SearchCursor.Keeps terms) (fun _ => True) x) :
    f.world.network.Said P (f.onCursor j x).world.network := by
  rcases f.onCursor_cases j x with idle | ⟨cursor, found, done⟩
  · rw [idle]
    exact .refl _
  · obtain ⟨terms, kept, talk⟩ := talks cursor found
    obtain ⟨-, talked, -⟩ := talk cursor f.world kept
    rw [done]
    exact talked.network.said

theorem opened_said {f : Fleet κ} {controls : List Control} {x : Act κ Unit LdapDirContext}
    (opens : LdapDirContext.OpensWith controls x) :
    f.world.network.Said (Purpose.opening controls).Allows (f.opened x).world.network := by
  obtain ⟨_, _, grown, -⟩ := opens f.world
  rw [Fleet.opened, Fleet.join_world]
  exact grown.said.mono fun _ => Purpose.opening_allows

/-- What a pull is for. -/
theorem pull_said (agrees : a.Agrees t) {j : Nat} {α : Type} {x : Act κ SearchCursor α}
    (pages : ∀ terms, SearchCursor.Pages terms x) :
    a.fleet.world.network.Said (Purpose.asking (t.search j).1.request (t.search j).2).Allows
      (a.fleet.onCursor j x).world.network :=
  onCursor_said fun _ found => ⟨_, (agrees.search found).1, pages _⟩

/-- The purpose of an operation, by the tally. -/
theorem perform_purpose (agrees : a.Agrees t) {i : Nat} {c : LdapDirContext}
    (found : a.fleet.contexts[i]? = some (some c)) (op : Op) :
    t.purpose (a.paging (.move (.perform i op) rfl)) (.move (.perform i op) rfl) =
      c.purpose op := by
  have paging : a.paging (.move (.perform i op) rfl) = c.pagingOf op := by
    simp only [Family.paging, found]
  have holds : (t.context i).request = c.requestControls :=
    congrArg Holding.request (agrees.context found)
  rw [paging]
  cases op with
  | reconnect controls => rfl
  | _ => simp only [Tally.purpose, LdapDirContext.purpose, holds]

/-- An operation says what serves its purpose. -/
theorem op_said (agrees : a.Agrees t) (i : Nat) (op : Op) :
    let d : Dealing := .move (.perform i op) rfl
    a.fleet.world.network.Said (t.purpose (a.paging d) d).Allows
      (a.fleet.step (.perform i op)).world.network := by
  intro d
  simp only [Fleet.step]
  rcases a.fleet.onContext_cases i (LdapDirContext.perform op) with idle | ⟨c, found, done⟩
  · rw [idle]
    exact .refl _
  · rw [done, perform_purpose agrees found]
    simp only [Fleet.join_world]
    exact LdapDirContext.perform_said op c a.fleet.world

/-- Who closes a context says at most that it leaves, and who drops anything says nothing. -/
theorem close_said (f : Fleet κ) (i : Nat) :
    f.world.network.Said Purpose.leaving.Allows (f.step (.close i)).world.network := by
  have unbinds : Purpose.leaving.Allows ⟨.unbind, []⟩ := rfl
  simp only [Fleet.step]
  rcases f.onContext_cases i LdapDirContext.close with idle | ⟨c, found, done⟩
  · rw [idle]
    exact .refl _
  · obtain ⟨w', closed, network⟩ := c.close_network f.world
    rw [done, closed]
    change Network.Said _ _ w'.network
    rw [network]
    exact Network.said_released unbinds _ _

theorem drop_said {P : SentRequest → Prop} (f : Fleet κ) (i : Nat) :
    f.world.network.Said P (f.step (.drop i)).world.network := by
  simp only [Fleet.step]
  split
  · next c found =>
      change Network.Said _ _ (c.discard f.world).network
      rw [c.discard_network]
      exact Network.said_shares _ (fun count => count - 1) _
  · exact .refl _

theorem dropCursor_said {P : SentRequest → Prop} (f : Fleet κ) (j : Nat) :
    f.world.network.Said P (f.step (.dropCursor j)).world.network := by
  simp only [Fleet.step]
  split
  · next cursor found => exact Network.said_shares (some cursor.link) (fun count => count - 1) _
  · exact .refl _

/-- **What is said.**  Every request that a dealing sends serves its purpose. -/
theorem step_said (agrees : a.Agrees t) (d : Dealing) :
    a.fleet.world.network.Said (t.purpose (a.paging d) d).Allows
      (a.step d).fleet.world.network := by
  cases d with
  | connect config credentials env =>
      exact opened_said (LdapDirContext.openAt_opensWith _ _ _ _ _ _)
  | follow n =>
      simp only [step, after, Tally.purpose]
      split
      · next r found =>
          rw [agrees.referral found]
          exact opened_said r.connect_opensWith
      · exact .refl _
  | skip n => exact .refl _
  | move m others =>
      cases m with
      | openAt url base config credentials env controls => cases others
      | perform i op => exact op_said agrees i op
      | close i => exact close_said a.fleet i
      | drop i => exact drop_said a.fleet i
      | hasMore j => exact pull_said agrees SearchCursor.hasMore_pages
      | next j => exact pull_said agrees SearchCursor.next_pages
      | closeCursor j =>
          exact onCursor_said fun cursor found =>
            ⟨_, (agrees.search found).1, SearchCursor.close_abandons _ fun _ => rfl⟩
      | dropCursor j => exact dropCursor_said a.fleet j
      | withSlot slot => exact .refl _

/-! ## Runs -/

/-- A family and its tally after dealings. -/
def account (x : Family κ × Tally) (dealings : List Dealing) : Family κ × Tally :=
  dealings.foldl (fun x d => (x.1.step d, x.2.record d (x.1.upshot d))) x

theorem account_agrees {x : Family κ × Tally} (agrees : x.1.Agrees x.2)
    (dealings : List Dealing) : (account x dealings).1.Agrees (account x dealings).2 := by
  induction dealings generalizing x with
  | nil => exact agrees
  | cons d rest ih => exact ih (step_agrees agrees d)

theorem fresh_agrees (w : World κ) : (fresh w).Agrees {} :=
  ⟨⟨rfl, fun _ _ found => by cases found⟩, ⟨rfl, fun _ _ found => by cases found⟩, rfl⟩

/-- Setting the controls of one context concerns nobody else. -/
theorem set_controls_apart (a : Family κ) (i : Nat) (controls : List Control) :
    let b := a.step (.move (.perform i (.setRequestControls controls)) rfl)
    (∀ j ≠ i, b.fleet.contexts[j]? = a.fleet.contexts[j]?) ∧
      b.fleet.cursors = a.fleet.cursors ∧ b.referrals = a.referrals ∧
      b.fleet.world = a.fleet.world := by
  intro b
  have moved : b.fleet = a.fleet.step (.perform i (.setRequestControls controls)) := rfl
  have received : b.referrals = a.referrals ++
      (brought (a.fleet.told (.perform i (.setRequestControls controls)))).toList := rfl
  rw [moved, received]
  simp only [Fleet.step, Fleet.told]
  rcases a.fleet.onContext_cases i (LdapDirContext.perform (.setRequestControls controls)) with
    idle | ⟨c, found, done⟩
  · rw [idle]
    exact ⟨fun _ _ => rfl, rfl, List.append_nil _, rfl⟩
  · rw [done]
    exact ⟨fun j other => List.getElem?_set_ne (Ne.symm other), rfl, List.append_nil _, rfl⟩

/-- **Every request bears the controls it ought to**, in every run, and no others.

The tally is right about what every context holds: the request controls last set on it, or else
those it was given or that the context it came from had then, and none if it was opened; setting
them on one context concerns no other, and no search that runs.

Whatever is done next, every request that is sent meanwhile, over whatever connection, serves the
purpose of the dealing and bears the controls for it.  All requests of an operation have the
request controls of the context, searches that are paged have the control for the page after them,
and later pages have what the first page had.  A bind has the controls that the reconnect was
called with, whether it succeeds or not, or those of the context that the referral came from, or
else none.  Nothing that is unbound or abandoned has any. -/
theorem requests_bear_controls (w : World κ) (dealings : List Dealing) :
    let x := account (fresh w, {}) dealings
    (∀ (i : Nat) (c : LdapDirContext),
      x.1.fleet.contexts[i]? = some (some c) → x.2.contexts[i]? = some c.holding) ∧
    (∀ (i : Nat) (controls : List Control),
      let a := x.1.step (.move (.perform i (.setRequestControls controls)) rfl)
      (∀ j ≠ i, a.fleet.contexts[j]? = x.1.fleet.contexts[j]?) ∧
        a.fleet.cursors = x.1.fleet.cursors ∧ a.referrals = x.1.referrals ∧
        a.fleet.world = x.1.fleet.world) ∧
    ∀ d k, ∃ more, (x.1.step d).fleet.sentOver k = x.1.fleet.sentOver k ++ more ∧
      ∀ r ∈ more, (x.2.purpose (x.1.paging d) d).Allows r := by
  intro x
  have agrees : x.1.Agrees x.2 :=
    account_agrees (x := (fresh w, {})) (fresh_agrees w) dealings
  refine ⟨fun i c found => ?_, fun i controls => set_controls_apart x.1 i controls,
    fun d k => step_said agrees d k⟩
  obtain ⟨h, entry, rfl⟩ := agrees.contexts.2 i c found
  exact entry

end Family

end ManagedLdap
