/-
# ManagedLdap.Proofs.Referral.Retry -- every address of a referral is tried once, in order

Whoever holds a referral may open the context of its next address, with nothing around it or
through a facade, and may move it on.  Opening leaves the referral as it was, whatever comes of it
(`opening_keeps`), and moving on stops at the last address, so the position is the number of moves
asked for until that is reached (`after_eq`).

`Chase` is the loop that a caller writes around these calls: follow; when that fails, move on, and
as long as that was possible follow again.  The loop takes the referral that following leaves, so
it would run for ever, or leave an address out, if following moved anything.  That it does neither
is an induction over the addresses from the position on (`chase_tries`).
-/
import ManagedLdap.Proofs.Ldap.Dials
import ManagedLdap.Proofs.Ldap.Negotiation
import ManagedLdap.Proofs.Referral.Hosts

namespace ManagedLdap

set_option autoImplicit false

variable {η : Type}

/-! ## Calls of a referral -/

namespace Referral

/-- The address that is next. -/
def current? : Referral → Option String
  | .ldap r => r.current?
  | .scripted r => r.urls[r.index]?

/-- Open the context of the next address. -/
def opening : Act (Context Plain η) Referral (Context Plain η) := do
  let r ← Act.self
  Context.plain <$> r.connect

/-- What the holder of a referral may do with it. -/
inductive Call (η : Type) where
  /-- Move it on. -/
  | skip
  /-- Open the context of its next address with nothing around it. -/
  | connect
  /-- Open that context through a facade. -/
  | follow (facade : Context Plain η)

namespace Call

/-- What comes of a call. -/
inductive Answer (η : Type) where
  | moved (onward : Bool)
  | opened (context : Context Plain η)

def run : Call η → Act (Context Plain η) Referral (Answer η)
  | .skip => fun r w => (.ok (.moved r.skip.1), r.skip.2, w)
  | .connect => .opened <$> opening
  | .follow c => .opened <$> c.follow opening

/-- Whether a call asks the referral to move on. -/
def isSkip : Call η → Bool
  | .skip => true
  | _ => false

/-- How many calls ask the referral to move on. -/
def skips (calls : List (Call η × World (Context Plain η))) : Nat :=
  calls.countP fun call => call.1.isSkip

end Call

/-- The referral after calls, each of which found the world in some state. -/
def after (r : Referral) (calls : List (Call η × World (Context Plain η))) : Referral :=
  calls.foldl (fun r call => (call.1.run r call.2).2.1) r

/-! ## Moving on -/

/-- Moving on stops at the last address, and says so. -/
theorem skip_eq {r : LdapReferral} (within : r.index < r.urls.length) :
    (Referral.ldap r).skip =
      (decide (r.index + 1 < r.urls.length),
        .ldap { r with index := min (r.index + 1) (r.urls.length - 1) }) := by
  by_cases more : r.index + 1 < r.urls.length
  · have next : min (r.index + 1) (r.urls.length - 1) = r.index + 1 := by omega
    simp only [skip, nextIndex?, if_pos more, next, decide_eq_true more]
  · have last : min (r.index + 1) (r.urls.length - 1) = r.index := by omega
    simp only [skip, nextIndex?, if_neg more, last, decide_eq_false more]

end Referral

/-! ## Opening the next address -/

/-- The attempts to connect that an address leads to: one, unless it leads nowhere. -/
def ReferralOrigin.dials (o : ReferralOrigin) (slot : Slot) (url : String) : List Dial :=
  match ReferralTarget.parse url with
  | .error _ => []
  | .ok target =>
      [.configured target.serverUrl slot (Connection.settings o.config target.serverUrl)]

/-- The attempts to connect that the next address leads to. -/
def LdapReferral.dials (r : LdapReferral) (slot : Slot) : List Dial :=
  r.current?.elim [] (r.origin.dials slot)

theorem LdapReferral.dials_eq (r : LdapReferral) (slot : Slot) :
    r.dials slot = match r.destination with
      | .error _ => []
      | .ok target => [(Opening.mk target.serverUrl r.origin.config r.origin.credentials
          r.origin.connectControls).dial slot] := by
  unfold dials destination
  cases r.current? with
  | none => rfl
  | some url =>
      simp only [Option.elim_some, ReferralOrigin.dials]
      cases ReferralTarget.parse url with
      | error fault => rfl
      | ok target =>
          dsimp only
          split <;> rfl

/-- What opening the next address leaves of everything else. -/
structure LdapReferral.Tries {κ σ α : Type} (r : LdapReferral) (s : σ) (w : World κ)
    (y : Except Failure α × σ × World κ) : Prop where
  object : y.2.1 = s
  slot : y.2.2.slot = w.slot
  dials : y.2.2.network.dials = w.network.dials ++ r.dials w.slot
  calm : y.1 ≠ .error .panic

theorem LdapReferral.Tries.map {κ σ α β : Type} {r : LdapReferral} {s : σ} {w : World κ}
    {y : Except Failure α × σ × World κ} (f : α → β) (tries : r.Tries s w y) :
    r.Tries s w (y.1.map f, y.2) := by
  obtain ⟨object, slot, dials, calm⟩ := tries
  refine ⟨object, slot, dials, fun panicked => calm ?_⟩
  obtain ⟨failure | a, s', w'⟩ := y
  · exact congrArg Except.error (Except.error.inj panicked)
  · cases panicked

/-- **Opening the next address** is at most one attempt to connect, and changes nothing that the
caller holds. -/
theorem LdapReferral.connect_tries {κ σ : Type} (r : LdapReferral) (s : σ) (w : World κ) :
    r.Tries s w (r.connect s w) := by
  have slot := (r.connect_dials s w).slot
  have calm := r.connect_calm s w
  suffices same : (r.connect s w).2.1 = s ∧
      (r.connect s w).2.2.network.dials = w.network.dials ++ r.dials w.slot from
    ⟨same.1, slot, same.2, calm⟩
  rw [dials_eq]
  cases destined : r.destination with
  | error e =>
      rw [connect, destined]
      exact ⟨rfl, (List.append_nil _).symm⟩
  | ok target =>
      have attempted := (Connection.open_sends ⟨target.serverUrl, r.origin.config,
        r.origin.credentials, r.origin.connectControls⟩ s w).dials
      obtain ⟨same, -⟩ := Connection.open_grows target.serverUrl r.origin.config
        r.origin.credentials r.origin.connectControls s w
      simp only [connect, destined, LdapDirContext.demand, Act.bind_apply, Act.pure_apply,
        Act.outcome, LdapDirContext.openAt]
      generalize Connection.open target.serverUrl r.origin.config r.origin.credentials
        r.origin.connectControls s w = y at attempted same
      obtain ⟨(e | _) | k, s', w'⟩ := y
      · exact ⟨same, attempted⟩
      · exact ⟨same, attempted⟩
      · exact ⟨same, attempted⟩

namespace Referral

theorem opening_tries (r : LdapReferral) (w : World (Context Plain η)) :
    r.Tries (.ldap r) w (opening (.ldap r) w) := by
  have tries := ((r.connect_tries (Referral.ldap r) w).map (Sum.inl : _ → Plain)).map
    (Context.plain : _ → Context Plain η)
  simpa only [opening, connect, Act.bind_apply, Act.self_apply, Act.map_apply] using tries

/-! ## Calls in any order -/

/-- One attempt to follow a referral. -/
structure Attempt (η : Type) where
  /-- The address that was next. -/
  url : Option String
  before : World (Context Plain η)
  outcome : Except Failure (Context Plain η)
  after : World (Context Plain η)

namespace Attempt

/-- The attempt failed, with an error for its caller. -/
def Failed (a : Attempt η) : Prop := ∃ e, a.outcome = .error (.error e)

instance (a : Attempt η) : Decidable a.Failed :=
  match outcome : a.outcome with
  | .error (.error e) => .isTrue ⟨e, outcome⟩
  | .error .panic => .isFalse fun ⟨e, failed⟩ => by rw [outcome] at failed; cases failed
  | .ok c => .isFalse fun ⟨e, failed⟩ => by rw [outcome] at failed; cases failed

/-- The attempt opened a context. -/
def Opened (a : Attempt η) : Prop := ∃ c, a.outcome = .ok c

/-- What an attempt through a facade does: a closed facade refuses, an open one leads to the server
of the address with its factory in the slot, which is empty afterwards. -/
structure Made (o : ReferralOrigin) (c : Context Plain η) (a : Attempt η) : Prop where
  slot : a.after.slot = if c.isClosed = false ∧ c.factory?.isSome then none else a.before.slot
  dials : a.after.network.dials = a.before.network.dials ++
    if c.isClosed then [] else a.url.elim [] (o.dials (c.factory?.or a.before.slot))
  settles : a.Opened ∨ a.Failed

theorem settles_of_calm {a : Attempt η} (calm : a.outcome ≠ .error .panic) :
    a.Opened ∨ a.Failed := by
  cases outcome : a.outcome with
  | ok c => exact .inl ⟨c, outcome⟩
  | error failure =>
      cases failure with
      | error e => exact .inr ⟨e, outcome⟩
      | panic => exact absurd outcome calm

end Attempt

/-- The attempt to follow a referral through a facade. -/
def attempt (c : Context Plain η) (r : Referral) (w : World (Context Plain η)) : Attempt η :=
  let y := c.follow opening r w
  ⟨r.current?, w, y.1, y.2.2⟩

/-- Following through a facade that is open is opening with its factory in the slot. -/
theorem follow_open {c : Context Plain η} (isOpen : c.isClosed = false) (r : LdapReferral)
    (w : World (Context Plain η)) :
    ∃ y, r.Tries (Referral.ldap r) { w with slot := c.factory?.or w.slot } y ∧
      c.follow opening (.ldap r) w =
        (y.1, y.2.1, { y.2.2 with slot := if c.factory?.isSome then none else y.2.2.slot }) := by
  have lends : c.openFor opening = Act.under c.factory? (opening : Act _ Referral _) := by
    cases c with
    | plain c => rfl
    | managed inner handler factory => rfl
    | closed factory => cases isOpen
  have tries := opening_tries r { w with slot := c.factory?.or w.slot }
  refine ⟨_, tries.map fun d => Context.derived d c.factory?, ?_⟩
  rw [Context.follow_eq, lends, Act.under_eq]

/-- **Following through a facade** leaves the referral as it was. -/
theorem follow_made (c : Context Plain η) (r : LdapReferral) (w : World (Context Plain η)) :
    (c.follow opening (.ldap r) w).2.1 = .ldap r ∧
      (attempt c (.ldap r) w).Made r.origin c := by
  cases closed : c.isClosed with
  | false =>
      obtain ⟨y, ⟨object, slot, dials, calm⟩, followed⟩ := follow_open closed r w
      rw [attempt, followed]
      refine ⟨object, ?_, ?_, Attempt.settles_of_calm calm⟩
      · simp only [closed, true_and, slot]
        cases c.factory? <;> rfl
      · simp only [closed, Bool.false_eq_true, if_false]
        exact dials
  | true =>
      have refused : c.follow opening (.ldap r) w = (.error (.error .closed), .ldap r, w) := by
        cases c with
        | plain c => cases closed
        | managed inner handler factory => cases closed
        | closed factory => rfl
      rw [attempt, refused]
      exact ⟨rfl, by simp [closed], by simp [closed], .inr ⟨_, rfl⟩⟩

/-- Only moving on moves a referral. -/
theorem Call.run_keeps {call : Call η} (opens : call.isSkip = false) (r : LdapReferral)
    (w : World (Context Plain η)) :
    (call.run (.ldap r) w).2.1 = .ldap r ∧ (call.run (.ldap r) w).1 ≠ .error .panic := by
  cases call with
  | skip => cases opens
  | connect =>
      have tries := (opening_tries r w).map (Call.Answer.opened : _ → Call.Answer η)
      simp only [run, Act.map_apply]
      exact ⟨tries.object, tries.calm⟩
  | follow c =>
      obtain ⟨object, made⟩ := follow_made c r w
      simp only [run, Act.map_apply]
      refine ⟨object, ?_⟩
      rcases made.settles with ⟨d, opened⟩ | ⟨e, failed⟩
      · change (c.follow opening (.ldap r) w).1 = _ at opened
        rw [opened]
        exact Failure.ok_calm _
      · change (c.follow opening (.ldap r) w).1 = _ at failed
        rw [failed]
        exact Failure.error_calm e

/-- **The position** is the number of times the referral was asked to move on, until the last
address is reached. -/
theorem after_eq (r : LdapReferral) (within : r.index < r.urls.length)
    (calls : List (Call η × World (Context Plain η))) :
    (Referral.ldap r).after calls =
      .ldap { r with index := min (r.index + Call.skips calls) (r.urls.length - 1) } := by
  induction calls generalizing r with
  | nil =>
      have start : min (r.index + 0) (r.urls.length - 1) = r.index := by omega
      simp only [after, List.foldl_nil, Call.skips, List.countP_nil, start]
  | cons call calls ih =>
      obtain ⟨call, w⟩ := call
      rw [after, List.foldl_cons]
      cases skips : call.isSkip with
      | false =>
          rw [(Call.run_keeps skips r w).1]
          have count : Call.skips ((call, w) :: calls) = Call.skips calls := by
            rw [Call.skips, List.countP_cons_of_neg (by simp [skips])]
            rfl
          rw [count]
          exact ih r within
      | true =>
          cases call with
          | connect => cases skips
          | follow c => cases skips
          | skip =>
              have count : Call.skips ((Call.skip, w) :: calls) = Call.skips calls + 1 := by
                rw [Call.skips, List.countP_cons_of_pos (by simp [skips])]
                rfl
              simp only [Call.run, skip_eq within]
              have moved := ih { r with index := min (r.index + 1) (r.urls.length - 1) }
                (by dsimp only; omega)
              refine moved.trans ?_
              have position : min (min (r.index + 1) (r.urls.length - 1) + Call.skips calls)
                  (r.urls.length - 1) = min (r.index + (Call.skips calls + 1))
                    (r.urls.length - 1) := by omega
              simp only [count, position]

/-! ## The loop of a caller -/

/-- The loop that follows a referral and moves it on while that fails, with its attempts in order.
Each turn goes on with the referral and the world that the one before left. -/
inductive Chase (c : Context Plain η) :
    Referral → World (Context Plain η) → List (Attempt η) → Prop
  /-- Following opened a context, or did not come back with an error. -/
  | settled {r : Referral} {w : World (Context Plain η)}
      (ended : ¬ (attempt c r w).Failed) : Chase c r w [attempt c r w]
  /-- Following failed, and the referral could not be moved on. -/
  | exhausted {r : Referral} {w : World (Context Plain η)} (failed : (attempt c r w).Failed)
      (last : (c.follow opening r w).2.1.skip.1 = false) : Chase c r w [attempt c r w]
  /-- Following failed, and the referral was moved on. -/
  | onward {r : Referral} {w : World (Context Plain η)} {later : List (Attempt η)}
      (failed : (attempt c r w).Failed) (moved : (c.follow opening r w).2.1.skip.1 = true)
      (rest : Chase c (c.follow opening r w).2.1.skip.2 (attempt c r w).after later) :
      Chase c r w (attempt c r w :: later)

/-- The loop has one course. -/
theorem Chase.unique {c : Context Plain η} {r : Referral} {w : World (Context Plain η)}
    {attempts others : List (Attempt η)} (chase : Chase c r w attempts)
    (other : Chase c r w others) : others = attempts := by
  induction chase generalizing others with
  | settled ended =>
      cases other with
      | settled => rfl
      | exhausted failed => exact absurd failed ended
      | onward failed => exact absurd failed ended
  | exhausted failed last =>
      cases other with
      | settled ended => exact absurd failed ended
      | exhausted => rfl
      | onward _ moved => rw [last] at moved; cases moved
  | onward failed moved _ ih =>
      cases other with
      | settled ended => exact absurd failed ended
      | exhausted _ last => rw [last] at moved; cases moved
      | onward _ _ rest => rw [ih rest]

/-- The attempts of a loop over these addresses. -/
structure Tried (o : ReferralOrigin) (c : Context Plain η) (urls : List String)
    (attempts : List (Attempt η)) : Prop where
  /-- Addresses were tried from the first one on, each once. -/
  inOrder : attempts.map Attempt.url = (urls.take attempts.length).map some
  started : attempts ≠ []
  bounded : attempts.length ≤ urls.length
  /-- Only a failure leads to the next address. -/
  onward : ∀ a ∈ attempts.dropLast, a.Failed
  /-- The loop ends with a context, or with the last address. -/
  ends : ∀ a ∈ attempts.getLast?, a.Opened ∨ (a.Failed ∧ attempts.length = urls.length)
  made : ∀ a ∈ attempts, a.Made o c

namespace Tried

variable {o : ReferralOrigin} {c : Context Plain η} {url : String} {urls : List String}
  {a : Attempt η} {attempts : List (Attempt η)}

/-- A loop of one attempt. -/
theorem single (first : a.url = some url) (made : a.Made o c)
    (ends : a.Opened ∨ (a.Failed ∧ urls = [])) : Tried o c (url :: urls) [a] where
  inOrder := by simp [first]
  started := List.cons_ne_nil _ _
  bounded := by simp
  onward := List.forall_mem_nil _
  ends := by
    rintro b last
    obtain rfl := Option.some.inj last
    refine ends.imp_right ?_
    rintro ⟨failed, rfl⟩
    exact ⟨failed, rfl⟩
  made := by simpa using made

/-- A loop that goes on after a failure. -/
theorem cons (first : a.url = some url) (made : a.Made o c) (failed : a.Failed)
    (later : Tried o c urls attempts) : Tried o c (url :: urls) (a :: attempts) where
  inOrder := by simp [first, later.inOrder]
  started := List.cons_ne_nil _ _
  bounded := Nat.succ_le_succ later.bounded
  onward := by
    rw [List.dropLast_cons_of_ne_nil later.started]
    exact List.forall_mem_cons.2 ⟨failed, later.onward⟩
  ends := by
    rw [List.getLast?_cons_of_ne_nil later.started]
    intro b last
    refine (later.ends b last).imp_right ?_
    rintro ⟨lastFailed, all⟩
    exact ⟨lastFailed, congrArg Nat.succ all⟩
  made := List.forall_mem_cons.2 ⟨made, later.made⟩

end Tried

/-- **The loop tries the addresses from the position on**, in order, and ends. -/
theorem chase_tries (c : Context Plain η) (r : LdapReferral) (within : r.index < r.urls.length)
    (w : World (Context Plain η)) :
    ∃ attempts, Chase c (.ldap r) w attempts ∧
      Tried r.origin c (r.urls.drop r.index) attempts := by
  obtain ⟨kept, made⟩ := follow_made c r w
  have first : (attempt c (.ldap r) w).url = some r.urls[r.index] := List.getElem?_eq_getElem within
  have skipped := congrArg Referral.skip kept
  rw [skip_eq within] at skipped
  rw [List.drop_eq_getElem_cons within]
  rcases made.settles with opened | failed
  · obtain ⟨d, outcome⟩ := opened
    refine ⟨_, .settled ?_, .single first made (.inl ⟨d, outcome⟩)⟩
    rintro ⟨e, failed⟩
    rw [outcome] at failed
    cases failed
  by_cases more : r.index + 1 < r.urls.length
  · have position : min (r.index + 1) (r.urls.length - 1) = r.index + 1 := by omega
    rw [position, decide_eq_true more] at skipped
    obtain ⟨later, rest, tried⟩ := chase_tries c { r with index := r.index + 1 } more
      (attempt c (.ldap r) w).after
    refine ⟨_, .onward failed (by rw [skipped]) ?_, .cons first made failed tried⟩
    rw [skipped]
    exact rest
  · rw [decide_eq_false more] at skipped
    have nothing : r.urls.drop (r.index + 1) = [] := List.drop_eq_nil_of_le (by omega)
    exact ⟨_, .exhausted failed (by rw [skipped]), .single first made (.inr ⟨failed, nothing⟩)⟩
termination_by r.urls.length - r.index

/-! ## Retrying -/

/-- **Every address is tried once, in the order of the server.**  For a referral as it was
received, with any addresses:

* after any calls, with whatever came of them, the next address is the one whose position is the
  number of times the referral was asked to move on, or the last one;
* asked once more, it moves on until it stands at the last address, and then says no and stays;
* every other call leaves it as it was, and opens a context or fails with an error;
* the loop that follows it, and moves it on while that fails, ends.  It tries the addresses from
  the first one on, each once, until one of them can be connected to, and gives up only after the
  last.  Each attempt leads to the server of its address, with the factory of the facade in the
  slot, which is empty afterwards.  Only a facade that was closed refuses each time, and then
  nobody is connected to. -/
theorem every_address_tried_once (urls : List String) (target : String) (o : ReferralOrigin)
    (given : urls ≠ []) :
    let received : Referral := .ldap ⟨urls, 0, target, o⟩
    (∀ calls : List (Call η × World (Context Plain η)),
      let position := min (Call.skips calls) (urls.length - 1)
      received.after calls = .ldap ⟨urls, position, target, o⟩ ∧
      (∃ url, urls[position]? = some url ∧ (received.after calls).current? = some url) ∧
      (∀ w : World (Context Plain η), Call.skip.run (received.after calls) w =
        (.ok (.moved (decide (Call.skips calls + 1 < urls.length))),
          .ldap ⟨urls, min (Call.skips calls + 1) (urls.length - 1), target, o⟩, w)) ∧
      (∀ (call : Call η) (w : World (Context Plain η)), call.isSkip = false →
        (call.run (received.after calls) w).2.1 = received.after calls ∧
          (call.run (received.after calls) w).1 ≠ .error .panic)) ∧
    ∀ (c : Context Plain η) (w : World (Context Plain η)),
      ∃ attempts, Chase c received w attempts ∧ Tried o c urls attempts ∧
        ∀ others, Chase c received w others → others = attempts := by
  have within : 0 < urls.length := List.length_pos_iff.2 given
  intro received
  refine ⟨fun calls => ?_, fun c w => ?_⟩
  · intro position
    have inside : position < urls.length := by omega
    have stands : received.after calls = .ldap ⟨urls, position, target, o⟩ := by
      rw [after_eq ⟨urls, 0, target, o⟩ within, Nat.zero_add]
    rw [stands]
    refine ⟨rfl, ⟨urls[position], List.getElem?_eq_getElem inside,
      List.getElem?_eq_getElem inside⟩, fun w => ?_, fun call w opens => Call.run_keeps opens _ w⟩
    have next : min (position + 1) (urls.length - 1) =
        min (Call.skips calls + 1) (urls.length - 1) := by omega
    have answer : decide (position + 1 < urls.length) =
        decide (Call.skips calls + 1 < urls.length) := by
      rw [decide_eq_decide]
      omega
    simp only [Call.run, skip_eq (r := ⟨urls, position, target, o⟩) inside, next, answer]
  · obtain ⟨attempts, chase, tried⟩ := chase_tries c ⟨urls, 0, target, o⟩ within w
    rw [List.drop_zero] at tried
    exact ⟨attempts, chase, tried, fun others => chase.unique⟩

/-- The first address cannot be read, nobody listens at the second, and the third one answers. -/
theorem every_address_tried_once_of_three :
    let urls := ["::", "ldap://down.example.com", "ldap://up.example.com/dc=x"]
    let o : ReferralOrigin := ⟨{ host := "h" }, ⟨"", ""⟩, .empty, [], .throw⟩
    let facade : Context Plain := .derived (.closed none) (some (.named "tls"))
    let w : World (Context Plain) := { network := .loopback [⟨"up.example.com:389", [[]]⟩] }
    urls ≠ [] ∧ ∃ attempts, Chase facade (.ldap ⟨urls, 0, "", o⟩) w attempts ∧
      Tried o facade urls attempts ∧ attempts.length = 3 := by
  intro urls o facade w
  obtain ⟨attempts, chase, tried, alone⟩ :=
    (every_address_tried_once urls "" o (List.cons_ne_nil _ _)).2 facade w
  refine ⟨List.cons_ne_nil _ _, attempts, chase, tried, ?_⟩
  rw [← alone _ (.onward (by decide +kernel) (by decide +kernel)
    (.onward (by decide +kernel) (by decide +kernel) (.settled (by decide +kernel))))]
  rfl

end Referral

end ManagedLdap
