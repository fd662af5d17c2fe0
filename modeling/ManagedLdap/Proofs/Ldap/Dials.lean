/-
# ManagedLdap.Proofs.Ldap.Dials -- who tries to connect, and what configures the attempt

Every attempt to connect is kept by the network with the socket factory it was given, and a
socket factory with a label leaves it in the events when it configures one.  This module goes
through the calls of contexts and cursors and says which of them make an attempt.

`World.Undialled` is for those that make none: the slot is left alone, no attempt is recorded,
and no socket factory is asked for anything.  It also counts the connections such a call may
add, because the step that reaches a server does add one: `attempt_dials` puts it together with
the attempt that is recorded just before it, so no connection comes up without an attempt.
Opening takes what is in the slot, once, whether it succeeds or fails; a reconnect and a
followed referral come down to it.  Everything else a context or a cursor can be asked for is
undialled.
-/
import ManagedLdap.Proofs.Ldap.Opening
import ManagedLdap.Referral.Connect

namespace ManagedLdap

set_option autoImplicit false

/-- What a socket factory leaves behind when it configures a connection: its label, if it has
one. -/
def SocketFactory.mark : SocketFactory → Option String
  | .named label => some label
  | .plain label => some label
  | .tls _ => none

/-- What is left behind by the configuration of these connections. -/
def SocketFactory.marks (factories : List (Option SocketFactory)) : List String :=
  factories.filterMap fun factory => factory.bind mark

/-! ## Worlds -/

namespace World

variable {κ : Type} {n m : Nat} {w w' w'' : World κ} {xs ys : List (Option SocketFactory)}

/-- The labels that socket factories left behind, in order. -/
def configured (w : World κ) : List String :=
  w.events.filterMap fun e =>
    match e.what with
    | .configured label => some label
    | _ => none

/-- Nothing else that is recorded is such a label. -/
theorem configured_record (w : World κ) (what : Happening) :
    (w.record what).configured = w.configured ++
      (match what with
        | .configured label => [label]
        | _ => []) := by
  cases what <;> simp [configured, record]

/-- `w'` is `w` after a call that tried to connect to nobody: the slot is as it was, no socket
factory was asked to configure anything, and at most `n` connections were added. -/
structure Undialled (n : Nat) (w w' : World κ) : Prop where
  slot : w'.slot = w.slot
  configured : w'.configured = w.configured
  dials : w'.network.dials = w.network.dials
  links : w'.network.links.length ≤ w.network.links.length + n

/-- `w'` is `w` after a call that tried to connect, each time configured by these factories:
the slot is as it was, and there are no more connections than attempts. -/
structure Dialled (factories : List (Option SocketFactory)) (w w' : World κ) : Prop where
  slot : w'.slot = w.slot
  configured : w'.configured = w.configured ++ SocketFactory.marks factories
  dials : ∃ added, w'.network.dials = w.network.dials ++ added ∧
    added.map Dial.factory = factories
  links : w'.network.links.length ≤ w.network.links.length + factories.length

theorem Undialled.refl (w : World κ) : Undialled 0 w w := ⟨rfl, rfl, rfl, Nat.le_refl _⟩

theorem Undialled.trans (first : Undialled n w w') (second : Undialled m w' w'') :
    Undialled (n + m) w w'' := by
  have fewer := first.links
  have fewer' := second.links
  exact ⟨second.slot.trans first.slot, second.configured.trans first.configured,
    second.dials.trans first.dials, by omega⟩

/-- Traffic over a connection that is there, and warnings. -/
theorem Talked.undialled {line : Option LinkId} {P : SentRequest → Prop}
    (talked : World.Talked line P w w') : Undialled 0 w w' := by
  obtain ⟨⟨f, -, during⟩, others⟩ := talked
  rw [← others, during]
  refine ⟨rfl, rfl, ?_, ?_⟩
  · cases line <;> rfl
  · cases line with
    | none => exact Nat.le_refl _
    | some k => exact Nat.le_of_eq (List.length_modify ..)

/-- A share of a connection that is there. -/
theorem undialled_holding (w : World κ) (line : Option LinkId) :
    Undialled 0 w (w.holding line) := by
  cases line with
  | none => exact .refl w
  | some k => exact ⟨rfl, rfl, rfl, Nat.le_of_eq (List.length_modify ..)⟩

theorem undialled_letGo (w : World κ) (k : LinkId) : Undialled 0 w (Connection.letGo k w) :=
  ⟨rfl, rfl, rfl, Nat.le_of_eq (List.length_modify ..)⟩

theorem Undialled.dialled (quiet : Undialled 0 w w') : Dialled [] w w' :=
  ⟨quiet.slot, quiet.configured.trans (List.append_nil _).symm,
    ⟨[], by rw [quiet.dials, List.append_nil], rfl⟩, quiet.links⟩

theorem Dialled.trans (first : Dialled xs w w') (second : Dialled ys w' w'') :
    Dialled (xs ++ ys) w w'' := by
  obtain ⟨added, dials, made⟩ := first.dials
  obtain ⟨added', dials', made'⟩ := second.dials
  have fewer := first.links
  have fewer' := second.links
  refine ⟨second.slot.trans first.slot, ?_, ⟨added ++ added', ?_, ?_⟩, ?_⟩
  · rw [second.configured, first.configured, List.append_assoc, SocketFactory.marks,
      SocketFactory.marks, SocketFactory.marks, List.filterMap_append]
  · rw [dials', dials, List.append_assoc]
  · rw [List.map_append, made, made']
  · rw [List.length_append]
    omega

/-- What comes after the attempts of a call without another one. -/
theorem Dialled.andThen (first : Dialled xs w w') (second : Undialled 0 w' w'') :
    Dialled xs w w'' := by
  have both := first.trans second.dialled
  rwa [List.append_nil] at both

end World

/-! ## Calls -/

namespace Act

variable {κ σ α β : Type} {n m : Nat}

/-- A call that tries to connect to nobody and adds at most `n` connections. -/
def Undialled (n : Nat) (x : Act κ σ α) : Prop := ∀ s w, World.Undialled n w (x s w).2.2

/-- A call that tries to connect once, with the factory in the slot. -/
def DialsOnce (x : Act κ σ α) : Prop := ∀ s w, World.Dialled [w.slot] w (x s w).2.2

namespace Undialled

theorem ret (a : α) : Undialled 0 (pure a : Act κ σ α) := fun _ w => .refl w

theorem failWith (f : Failure) : Undialled 0 (Act.failWith f : Act κ σ α) := fun _ w => .refl w

theorem fail (e : DirError) : Undialled 0 (Act.fail e : Act κ σ α) := failWith (.error e)

theorem self : Undialled 0 (Act.self : Act κ σ σ) := fun _ w => .refl w

theorem network : Undialled 0 (Act.network : Act κ σ Network) := fun _ w => .refl w

theorem update (f : σ → σ) : Undialled 0 (Act.update f : Act κ σ Unit) := fun _ w => .refl w

theorem warn (warning : Warning) : Undialled 0 (Act.warn warning : Act κ σ Unit) :=
  fun _ _ => ⟨rfl, rfl, rfl, Nat.le_refl _⟩

/-- One holder of a connection less. -/
theorem letGo (k : LinkId) :
    Undialled 0 (Act.updateNetwork (fun n => n.letGo k) : Act κ σ Unit) :=
  fun _ w => w.undialled_letGo k

theorem more {x : Act κ σ α} (quiet : Undialled n x) (le : n ≤ m) : Undialled m x := by
  intro s w
  obtain ⟨slot, configured, dials, links⟩ := quiet s w
  exact ⟨slot, configured, dials, Nat.le_trans links (Nat.add_le_add_left le _)⟩

theorem bind {x : Act κ σ α} {f : α → Act κ σ β} (first : Undialled 0 x)
    (second : ∀ a, Undialled n (f a)) : Undialled n (x >>= f) := by
  intro s w
  have done := first s w
  rw [bind_apply]
  generalize x s w = y at done
  obtain ⟨failure | a, s', w'⟩ := y
  · obtain ⟨slot, configured, dials, links⟩ := done
    exact ⟨slot, configured, dials, Nat.le_trans links (Nat.le_add_right _ _)⟩
  · have both := done.trans (second a s' w')
    rwa [Nat.zero_add] at both

theorem of_talks {line : Option LinkId} {P : SentRequest → Prop} {Q : α → Prop} {x : Act κ σ α}
    (talks : Talks line P (fun _ => True) Q x) : Undialled 0 x :=
  fun s w => (talks s w trivial).2.1.undialled

end Undialled

namespace DialsOnce

/-- What goes on after the attempt without another one. -/
theorem bind {x : Act κ σ α} {f : α → Act κ σ β} (first : DialsOnce x)
    (second : ∀ a, Undialled 0 (f a)) : DialsOnce (x >>= f) := by
  intro s w
  have done := first s w
  rw [bind_apply]
  generalize x s w = y at done
  obtain ⟨failure | a, s', w'⟩ := y
  · exact done
  · exact done.andThen (second a s' w')

theorem outcome {x : Act κ σ α} (once : DialsOnce x) : DialsOnce (Act.outcome x) :=
  fun s w => once s w

/-- Looking at the object first. -/
theorem self {f : σ → Act κ σ β} (once : ∀ s, DialsOnce (f s)) :
    DialsOnce (Act.self >>= f) :=
  fun s w => once s s w

end DialsOnce

end Act

open Act (Talks Undialled DialsOnce)

/-! ## Opening and releasing -/

namespace Client

variable {κ σ : Type}

theorem exchange_undialled (k : LinkId) (patience : Option Nat) (controls : List Control)
    (request : Request) : Undialled 0 (exchange k patience controls request : Act κ σ _) :=
  .of_talks (P := fun _ => True) (exchange_talks trivial)

theorem post_undialled (k : LinkId) (request : Request) :
    Undialled 0 (post k request : Act κ σ _) :=
  .of_talks (P := fun _ => True) (post_talks trivial)

theorem negotiate_undialled (k : LinkId) (patience : Option Nat) :
    Undialled 0 (negotiate k patience : Act κ σ _) := by
  refine (exchange_undialled k patience _ _).bind fun r => ?_
  cases r with
  | error e => exact (Undialled.letGo _).bind fun _ => .ret _
  | ok reply =>
      dsimp only
      split
      · exact .ret _
      · exact (Undialled.letGo _).bind fun _ => .ret _

/-- Reaching a server adds the one connection. -/
theorem dial_undialled (url : String) (settings : ConnSettings) :
    Undialled 1 (dial url settings : Act κ σ _) := by
  unfold dial
  split
  · exact (Undialled.ret _).more (Nat.zero_le 1)
  · split
    · exact (Undialled.network.bind fun _ => .ret _).more (Nat.zero_le 1)
    · split
      · exact (Undialled.ret _).more (Nat.zero_le 1)
      · exact (Undialled.failWith _).more (Nat.zero_le 1)
      · intro s w
        simp only [Act.bind_apply, Act.network_apply]
        generalize accepted : w.network.accept _ = found
        rcases found with _ | ⟨link, n⟩
        · exact (Undialled.ret _).more (Nat.zero_le 1) s w
        · have reached : World.Undialled 1 w { w with network := n } := by
            unfold Network.accept at accepted
            split at accepted
            · cases accepted
            · obtain ⟨-, rfl⟩ := Prod.mk.inj (Option.some.inj accepted)
              exact ⟨rfl, rfl, rfl, by simp⟩
          simp only [Act.bind_apply, Act.updateNetwork_apply]
          split
          · exact reached.trans (negotiate_undialled link _ s _)
          · exact reached

end Client

namespace Connection

variable {κ σ : Type}

/-- A socket factory that configures a connection leaves its mark, and nothing else. -/
theorem configure_marks (factory : Option SocketFactory) (settings : ConnSettings) (s : σ)
    (w : World κ) :
    ∃ w', configure factory settings s w =
        (.ok (SocketFactory.configured factory settings), s, w') ∧
      w'.slot = w.slot ∧ w'.network = w.network ∧
      w'.configured = w.configured ++ SocketFactory.marks [factory] := by
  unfold configure
  split
  · exact ⟨_, rfl, rfl, rfl, w.configured_record _⟩
  · exact ⟨_, rfl, rfl, rfl, w.configured_record _⟩
  next named plain =>
    refine ⟨w, rfl, rfl, rfl, ?_⟩
    rcases factory with _ | label | label | settings
    · exact (List.append_nil _).symm
    · exact absurd rfl (named label)
    · exact absurd rfl (plain label)
    · exact (List.append_nil _).symm

theorem bind_undialled (k : LinkId) (credentials : Credentials) (controls : List Control) :
    Undialled 0 (Connection.bind k credentials controls : Act κ σ _) :=
  .of_talks (P := fun _ => True) (bind_talks trivial)

/-- Configuring, recording and making an attempt: the attempt is recorded once, with the factory
that configured it, and the connection it may lead to is the only one. -/
theorem attempt_dials (factory : Option SocketFactory) (url : String) (settings : ConnSettings)
    (s : σ) (w : World κ) :
    ∃ w₁, configure factory settings s w =
        (.ok (SocketFactory.configured factory settings), s, w₁) ∧
      World.Dialled [factory] w (Client.dial url (SocketFactory.configured factory settings) s
        { w₁ with network := w₁.network.recordDial (.configured url factory settings) }).2.2 := by
  obtain ⟨w₁, done, still, network, configured⟩ := configure_marks factory settings s w
  have reached := Client.dial_undialled (κ := κ) url (SocketFactory.configured factory settings) s
    { w₁ with network := w₁.network.recordDial (.configured url factory settings) }
  refine ⟨w₁, done, reached.slot.trans still, reached.configured.trans configured,
    ⟨[.configured url factory settings], ?_, rfl⟩, ?_⟩
  · rw [reached.dials, ← network]
    rfl
  · rw [← network]
    exact reached.links

/-- Opening a connection is one attempt, with the factory in the slot, however it ends. -/
theorem open_dials (url : String) (config : LdapConfig) (credentials : Credentials)
    (controls : List Control) :
    DialsOnce (Connection.open url config credentials controls : Act κ σ _) := by
  intro s w
  obtain ⟨w₁, done, attempt⟩ := attempt_dials w.slot url (settings config url) s w
  simp only [«open», Act.bind_apply, Act.world_apply, done, Act.updateNetwork_apply]
  unfold Dial.configured at attempt
  generalize Client.dial url _ s _ = x at attempt ⊢
  obtain ⟨r, s', w₂⟩ := x
  rcases r with failure | e | k
  · exact attempt
  · exact attempt
  · dsimp only
    split
    · exact attempt
    · refine attempt.andThen ?_
      refine ((bind_undialled k credentials controls).bind fun answer => ?_) s' w₂
      cases answer with
      | ok _ => exact .ret k
      | error e => exact (Undialled.letGo _).bind fun _ => .fail e

theorem release_undialled (k : LinkId) (url : String) :
    Undialled 0 (release k url : Act κ σ Unit) := by
  refine Undialled.network.bind fun n => ?_
  split
  · refine (Client.post_undialled k .unbind).bind fun r => ?_
    cases r with
    | ok _ =>
        intro s w
        refine ⟨rfl, rfl, rfl, Nat.le_of_eq ?_⟩
        exact (List.length_modify ..).trans (List.length_modify ..)
    | error e => exact (Undialled.warn _).bind fun _ => .letGo k
  · exact .letGo k

end Connection

/-! ## Contexts -/

namespace LdapDirContext

variable {κ σ : Type}

theorem openAt_dials (url base : String) (config : LdapConfig) (credentials : Credentials)
    (env : Environment) (controls : List Control) :
    DialsOnce (openAt url base config credentials env controls : Act κ σ _) :=
  (Connection.open_dials url config credentials controls).bind fun _ => .ret _

theorem reconnect_dials (controls : List Control) :
    DialsOnce (reconnect controls : Act κ LdapDirContext Unit) := by
  refine DialsOnce.self fun c => (Connection.open_dials _ _ _ _).bind fun link => ?_
  refine (Undialled.update _).bind fun _ => ?_
  split
  · exact Connection.release_undialled _ _
  · exact .ret ()

/-- A context that is asked for anything but to reconnect tries to connect to nobody. -/
theorem perform_undialled {op : Op} (stays : op.opensConnection = false) :
    Undialled 0 (perform op : Act κ LdapDirContext _) := by
  intro c w
  obtain ⟨-, w₁, talked, ends⟩ := perform_shares stays c w
  have quiet := talked.undialled
  generalize perform op c w = x at ends ⊢
  obtain ⟨failure | reply, c', w'⟩ := x
  · obtain rfl := ends
    exact quiet
  · obtain ⟨-, -, rfl⟩ := ends
    exact quiet.trans (w₁.undialled_holding _)

theorem perform_dials {op : Op} (opens : op.opensConnection = true) :
    DialsOnce (perform op : Act κ LdapDirContext _) := by
  cases op with
  | reconnect controls => exact (reconnect_dials controls).bind fun _ => .ret _
  | _ => cases opens

theorem close_undialled : Undialled 0 (close : Act κ LdapDirContext Unit) := by
  refine Undialled.self.bind fun c => (Undialled.update _).bind fun _ => ?_
  split
  · exact Connection.release_undialled _ _
  · exact .ret ()

theorem discard_undialled (c : LdapDirContext) (w : World κ) :
    World.Undialled 0 w (c.discard w) := by
  unfold discard
  split
  · exact w.undialled_letGo _
  · exact .refl w

end LdapDirContext

/-- Where a referral leads nowhere, following it tries to connect to nobody; and otherwise
once. -/
theorem LdapReferral.connect_dials {κ σ : Type} (r : LdapReferral) (s : σ) (w : World κ) :
    World.Dialled (if r.destination.isOk then [w.slot] else []) w (r.connect s w).2.2 := by
  cases destined : r.destination with
  | error e =>
      have refused : r.connect s w = (.error (.error e), s, w) := by
        rw [LdapReferral.connect, destined]
        rfl
      rw [refused]
      exact (World.Undialled.refl w).dialled
  | ok target =>
      have once : DialsOnce (r.connect : Act κ σ LdapDirContext) := by
        rw [LdapReferral.connect, destined, LdapDirContext.demand, pure_bind]
        refine (LdapDirContext.openAt_dials _ _ _ _ _ _).outcome.bind fun result => ?_
        rcases result with (e | _) | context
        · exact (Undialled.warn _).bind fun _ => .fail e
        · exact .failWith .panic
        · exact .ret context
      exact once s w

/-! ## Cursors -/

namespace SearchCursor

variable {κ : Type}

theorem finish_undialled (result : LdapResult) : Undialled 0 (finish result : Act κ _ _) := by
  refine Undialled.self.bind fun c => (Undialled.update _).bind fun _ => ?_
  split
  · exact .ret none
  · exact .fail _

theorem breakOff_undialled (e : ClientError) : Undialled 0 (breakOff e : Act κ _ _) :=
  (Undialled.update _).bind fun _ => .fail _

theorem nextPage_undialled (stream : Client.SearchStream) (cookie : Octets) :
    Undialled 0 (Client.nextPage stream cookie : Act κ SearchCursor _) :=
  .of_talks (P := fun _ => True) (Client.requestPage_talks trivial)

theorem fetchPage_undialled {onward : Act κ SearchCursor (Option SearchResult)}
    (quiet : Undialled 0 onward) : Undialled 0 (fetchPage onward) := by
  refine Undialled.self.bind fun c => ?_
  split
  · exact .ret none
  · refine (Undialled.update _).bind fun _ => ?_
    split
    · exact (Undialled.update _).bind fun _ => .ret _
    · split
      · exact breakOff_undialled _
      · split
        · exact finish_undialled _
        · exact .failWith .panic
        · refine (nextPage_undialled _ _).bind fun r => ?_
          cases r with
          | error e => exact breakOff_undialled e
          | ok next => exact (Undialled.update _).bind fun _ => quiet

theorem fetchWithin_undialled (pages : Nat) : Undialled 0 (fetchWithin pages : Act κ _ _) := by
  induction pages with
  | zero => exact fetchPage_undialled (finish_undialled {})
  | succ pages ih => exact fetchPage_undialled ih

theorem fetch_undialled : Undialled 0 (fetch : Act κ _ _) :=
  Undialled.self.bind fun _ => Undialled.network.bind fun _ => fetchWithin_undialled _

theorem hasMore_undialled : Undialled 0 (hasMore : Act κ _ _) := by
  refine Undialled.self.bind fun c => ?_
  split
  · exact .ret true
  · exact fetch_undialled.bind fun _ => (Undialled.update _).bind fun _ => .ret _

theorem next_undialled : Undialled 0 (next : Act κ _ _) := by
  refine Undialled.self.bind fun c => ?_
  split
  · exact (Undialled.update _).bind fun _ => .ret _
  · exact fetch_undialled

theorem close_undialled : Undialled 0 (close : Act κ _ _) := by
  refine Undialled.self.bind fun c => (Undialled.update _).bind fun _ => ?_
  split
  · exact .ret ()
  · refine (Client.post_undialled _ _).bind fun r => ?_
    cases r with
    | ok _ => exact .ret ()
    | error e => exact .warn _

end SearchCursor

end ManagedLdap
