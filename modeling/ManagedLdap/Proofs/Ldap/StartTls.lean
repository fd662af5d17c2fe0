/-
# ManagedLdap.Proofs.Ldap.StartTls -- when a connection is encrypted before anybody binds

A configuration may want a plain connection to be encrypted before it is used.  A move of a
fleet opens at most one connection, with an address, a configuration and an identity that an
opening move of the run gave (`Fleet.step_attempts`, `Fleet.run_stated`), and whatever is done
later appends no bind to what was sent over it (`Fleet.run_continues`).  So a bind goes over an
encrypted connection whenever that was wanted, as long as the text of a plain address starts
like one (`Fleet.encrypts_before_bind`).  An address from the properties need not, and then the
bind goes in clear (`Fleet.shouted_scheme_binds_in_clear`).
-/
import ManagedLdap.Proofs.Ldap.Fleet
import ManagedLdap.Proofs.Ldap.Negotiation

namespace ManagedLdap

set_option autoImplicit false

/-! ## Contexts keep what they were opened with -/

namespace LdapDirContext

variable {κ : Type}

/-- What a reconnect of the context opens. -/
def opening (c : LdapDirContext) (controls : List Control) : Opening :=
  ⟨c.url, c.config, c.credentials, controls⟩

/-- `c` is opened at the same place and with the same identity as `c₀`. -/
def Kin (c₀ c : LdapDirContext) : Prop := ∀ controls, c.opening controls = c₀.opening controls

theorem Like.kin {c₀ c : LdapDirContext} (like : Like c₀ c) : Kin c₀ c := by
  intro controls
  rw [like]
  rfl

theorem IsChild.kin {c₀ c : LdapDirContext} {controls : List Control}
    (isChild : IsChild c₀ controls c) : Kin c₀ c := by
  obtain ⟨base, rfl⟩ := isChild
  exact fun _ => rfl

/-- Nothing a context is asked for changes where it is opened, and what it hands out is opened
there too. -/
theorem perform_kin (op : Op) (c : LdapDirContext) (w : World κ) :
    Kin c (perform op c w).2.1 ∧
      ∀ child, (perform op c w).1 = .ok (.context child) → Kin c child := by
  cases opens : op.opensConnection with
  | true =>
      cases op with
      | reconnect controls =>
          simp only [perform, Act.bind_apply]
          rcases c.reconnect_network controls w with ⟨failure, w', failed, -⟩ | ⟨k, n, w', moved, -⟩
          · rw [failed]
            exact ⟨fun _ => rfl, fun child same => by cases same⟩
          · rw [moved]
            exact ⟨fun _ => rfl, fun child same => by cases same⟩
      | _ => cases opens
  | false =>
      cases asks : isLocal op with
      | true =>
          cases op with
          | addToEnvironment property value => exact ⟨fun _ => rfl, fun child same => by cases same⟩
          | removeFromEnvironment property => exact ⟨fun _ => rfl, fun child same => by cases same⟩
          | setRequestControls controls => exact ⟨fun _ => rfl, fun child same => by cases same⟩
          | _ => cases asks
      | false =>
          have offers : Offers c _ held (Handed c op) (perform op : Act κ _ _) :=
            perform_offers opens asks
          obtain ⟨like, w₁, -, ends⟩ := offers c w rfl
          refine ⟨like.kin, fun child same => ?_⟩
          rw [same] at ends
          obtain ⟨-, isChild, -⟩ := ends
          exact isChild.kin

/-- What is opened is opened as was said. -/
theorem openAt_opening {σ : Type} {url base : String} {config : LdapConfig}
    {credentials : Credentials} {env : Environment} {controls : List Control} {s : σ}
    {w : World κ} {c : LdapDirContext}
    (opened : (openAt url base config credentials env controls s w).1 = .ok c) :
    c.opening controls = ⟨url, config, credentials, controls⟩ := by
  simp only [openAt, Act.bind_apply] at opened
  split at opened
  · obtain rfl := Except.ok.inj opened
    rfl
  · cases opened

end LdapDirContext

/-! ## What stays of a connection -/

/-- Whether a request binds an identity. -/
def SentRequest.isBind (r : SentRequest) : Bool :=
  match r.request with
  | .bind _ _ => true
  | _ => false

theorem SentRequest.Operates.noBind {r : SentRequest} (operates : r.Operates) :
    r.isBind = false := by
  obtain ⟨request, controls⟩ := r
  cases request with
  | bind dn password => cases operates
  | _ => rfl

namespace Network

/-- `n'` is `n` after whatever takes nothing back of what was sent, and binds over no
connection that was there. -/
structure Continues (n n' : Network) : Prop where
  made : n.links.length ≤ n'.links.length
  sent : ∀ k < n.links.length, ∃ more, n'.sentOver k = n.sentOver k ++ more ∧
    ∀ r ∈ more, r.isBind = false

variable {n n' n'' : Network}

theorem Continues.refl (n : Network) : Continues n n :=
  ⟨Nat.le_refl _, fun _ _ => ⟨[], (List.append_nil _).symm, List.forall_mem_nil _⟩⟩

theorem Continues.trans (first : Continues n n') (second : Continues n' n'') :
    Continues n n'' := by
  refine ⟨Nat.le_trans first.made second.made, fun k old => ?_⟩
  obtain ⟨more, sent, quiet⟩ := first.sent k old
  obtain ⟨more', sent', quiet'⟩ := second.sent k (Nat.lt_of_lt_of_le old first.made)
  refine ⟨more ++ more', by rw [sent', sent, List.append_assoc], fun r among => ?_⟩
  rcases List.mem_append.1 among with early | late
  · exact quiet r early
  · exact quiet' r late

/-- `n'` is `n` after whatever also connects to nobody. -/
structure Idle (n n' : Network) : Prop where
  dials : n'.dials = n.dials
  count : n'.links.length = n.links.length
  continues : Continues n n'

theorem Idle.refl (n : Network) : Idle n n := ⟨rfl, rfl, .refl n⟩

theorem Idle.trans (first : Idle n n') (second : Idle n' n'') : Idle n n'' :=
  ⟨second.dials.trans first.dials, second.count.trans first.count,
    first.continues.trans second.continues⟩

/-- Whatever is done to one connection, if no bind is sent. -/
theorem Idle.along (n : Network) (line : Option LinkId) {f : Link → Link}
    (adds : ∀ l, ∃ more, (f l).sent = l.sent ++ more ∧ ∀ r ∈ more, r.isBind = false) :
    Idle n (n.along line f) := by
  cases line with
  | none => exact .refl n
  | some k =>
      have count : (n.along (some k) f).links.length = n.links.length := List.length_modify ..
      refine ⟨rfl, count, Nat.le_of_eq count.symm, fun j _ => ?_⟩
      simp only [Network.along, Option.elim, sentOver, link?_modifyLink]
      by_cases here : k = j
      · rw [if_pos here]
        cases found : n.link? j with
        | none => exact ⟨[], rfl, List.forall_mem_nil _⟩
        | some l => exact adds l
      · rw [if_neg here]
        exact ⟨[], (List.append_nil _).symm, List.forall_mem_nil _⟩

theorem Talked.idle {line : Option LinkId} {P : SentRequest → Prop}
    (silent : ∀ r, P r → r.isBind = false) (talked : Talked line P n n') : Idle n n' := by
  obtain ⟨f, meet, rfl⟩ := talked
  refine .along n line fun l => ?_
  obtain ⟨more, sent, met⟩ := (meet l).sent
  exact ⟨more, sent, fun r among => silent r (met r among)⟩

theorem idle_released (n : Network) (line : Option LinkId) :
    Idle n (n.along line Link.released) := by
  refine .along n line fun l => ?_
  unfold Link.released
  split
  · refine ⟨[⟨.unbind, []⟩], rfl, fun r among => ?_⟩
    rw [List.mem_singleton.1 among]
    rfl
  · exact ⟨[], (List.append_nil _).symm, List.forall_mem_nil _⟩

/-- Shares go over no connection. -/
theorem idle_shares (n : Network) (line : Option LinkId) (count : Nat → Nat) :
    Idle n (n.along line fun l => { l with shares := count l.shares }) :=
  .along n line fun _ => ⟨[], (List.append_nil _).symm, List.forall_mem_nil _⟩

/-- Opening leaves the connections that were there alone. -/
theorem Grown.continues {P : SentRequest → Prop} {opened : Option LinkId}
    (grown : Grown P n n' opened) : Continues n n' := by
  refine ⟨?_, fun k old => ⟨[], ?_, List.forall_mem_nil _⟩⟩
  · obtain ⟨new, links, -⟩ := grown
    rw [links, List.length_append]
    exact Nat.le_add_right _ _
  · rw [sentOver_congr (grown.link? old), List.append_nil]

/-- `n'` is `n` after one attempt to connect, and after giving up another connection perhaps. -/
structure Led (o : Opening) (slot : Slot) (n n' : Network) : Prop where
  dials : n'.dials = n.dials ++ [o.dial slot]
  made : n'.links.length = n.links.length ∨
    n'.links.length = n.links.length + 1 ∧ ∃ u server, Url.parse o.url = .ok u ∧
      u.server? = some server ∧ n'.sentOver n.links.length = o.requests u (n.greeting server)

theorem Attempted.led {o : Opening} {slot : Slot} (attempted : Attempted o slot n n') :
    Led o slot n n' := by
  obtain ⟨dials, links | ⟨u, server, l, parsed, called, links, sent⟩⟩ := attempted
  · exact ⟨dials, .inl (congrArg _ links)⟩
  · have found : n'.link? n.links.length = some l := by
      simp only [Network.link?, links, List.getElem?_concat_length]
    refine ⟨dials, .inr ⟨by rw [links, List.length_append]; rfl, u, server, parsed, called, ?_⟩⟩
    rw [sentOver_of_link? found, sent]

/-- Another connection is given up. -/
theorem Led.modify {o : Opening} {slot : Slot} (led : Led o slot n n') {k : LinkId}
    (old : k < n.links.length) (f : Link → Link) : Led o slot n (n'.modifyLink k f) := by
  have other : k ≠ n.links.length := Nat.ne_of_lt old
  have same : (n'.modifyLink k f).sentOver n.links.length = n'.sentOver n.links.length :=
    sentOver_congr (by rw [link?_modifyLink, if_neg other])
  have count : (n'.modifyLink k f).links.length = n'.links.length := List.length_modify ..
  refine ⟨led.dials, ?_⟩
  rw [count, same]
  exact led.made

end Network

namespace LdapDirContext

variable {κ : Type}

theorem reconnect_sends (controls : List Control) (c : LdapDirContext) (w : World κ)
    (old : ∀ k, c.connection = some k → k < w.network.links.length) :
    w.network.Led (c.opening controls) w.slot (reconnect controls c w).2.2.network := by
  have led := (Connection.open_sends (c.opening controls) c w).led
  obtain ⟨same, -⟩ := Connection.open_grows c.url c.config c.credentials controls c w
  simp only [opening] at led ⊢
  simp only [reconnect, Act.bind_apply, Act.self_apply]
  generalize Connection.open c.url c.config c.credentials controls c w = y at same led ⊢
  obtain ⟨failure | k, c', w₁⟩ := y
  · exact led
  · obtain rfl : c' = c := same
    cases held : c'.connection with
    | none => exact led
    | some previous =>
        obtain ⟨w', released, network⟩ := Connection.release_network previous c'.url
          { c' with connectControls := controls, connection := some k } w₁
        simp only [Act.update_apply, released, network]
        exact led.modify (old previous held) _

end LdapDirContext

/-! ## Moves and runs -/

/-- One of these moves opens a context with this address, configuration and identity. -/
def Opening.StatedIn (o : Opening) (moves : List Move) : Prop :=
  ∃ base env controls, .openAt o.url base o.config o.credentials env controls ∈ moves

namespace Fleet

variable {κ : Type}

/-- The contexts of a fleet were opened by these moves. -/
def Stated (f : Fleet κ) (moves : List Move) : Prop :=
  ∀ c, some c ∈ f.contexts → ∀ controls, (c.opening controls).StatedIn moves

theorem mem_join_contexts {f : Fleet κ} {r : Except Failure (Reply LdapDirContext SearchCursor)}
    {c : LdapDirContext} (among : some c ∈ (f.join r).contexts) :
    some c ∈ f.contexts ∨ r = .ok (.context c) := by
  unfold join at among
  split at among
  · rcases List.mem_append.1 among with old | new
    · exact .inl old
    · obtain rfl := Option.some.inj (List.mem_singleton.1 new)
      exact .inr rfl
  · exact .inl among
  · exact .inl among

/-- Every context was there before, up to what it was not opened with, or the move opened it. -/
theorem step_contexts {f : Fleet κ} {m : Move} {c : LdapDirContext}
    (among : some c ∈ (f.step m).contexts) :
    (∃ c₀, some c₀ ∈ f.contexts ∧ c₀.Kin c) ∨ ∀ controls, (c.opening controls).StatedIn [m] := by
  have stays : ∀ {c}, some c ∈ f.contexts → ∃ c₀, some c₀ ∈ f.contexts ∧ c₀.Kin c :=
    fun among => ⟨_, among, fun _ => rfl⟩
  cases m with
  | openAt url base config credentials env controls =>
      simp only [step] at among
      rcases mem_join_contexts among with old | new
      · exact .inl (stays old)
      · generalize opened : LdapDirContext.openAt url base config credentials env controls ()
          f.world = x at new
        obtain ⟨r, s, w⟩ := x
        cases r with
        | error failure => cases new
        | ok c' =>
            cases new
            have said := LdapDirContext.openAt_opening (congrArg Prod.fst opened)
            refine .inr fun controls' => ⟨base, env, controls, ?_⟩
            simp only [LdapDirContext.opening, Opening.mk.injEq] at said
            obtain ⟨rfl, rfl, rfl, -⟩ := said
            exact List.mem_cons_self
  | perform i op =>
      simp only [step] at among
      rcases f.onContext_cases i (LdapDirContext.perform op) with idle | ⟨c₀, found, done⟩
      · rw [idle] at among
        exact .inl (stays among)
      · rw [done] at among
        obtain ⟨kept, handed⟩ := LdapDirContext.perform_kin op c₀ f.world
        have there := List.mem_of_getElem? found
        rcases mem_join_contexts among with old | new
        · rcases List.mem_or_eq_of_mem_set old with old | here
          · exact .inl (stays old)
          · cases here
            exact .inl ⟨c₀, there, kept⟩
        · exact .inl ⟨c₀, there, handed c new⟩
  | close i =>
      simp only [step] at among
      rcases f.onContext_cases i LdapDirContext.close with idle | ⟨c₀, found, done⟩
      · rw [idle] at among
        exact .inl (stays among)
      · obtain ⟨w', closed, -⟩ := c₀.close_network f.world
        rw [done, closed] at among
        rcases List.mem_or_eq_of_mem_set among with old | here
        · exact .inl (stays old)
        · cases here
          exact .inl ⟨c₀, List.mem_of_getElem? found, fun _ => rfl⟩
  | drop i =>
      simp only [step] at among
      split at among
      · rcases List.mem_or_eq_of_mem_set among with old | here
        · exact .inl (stays old)
        · cases here
      · exact .inl (stays among)
  | hasMore j => exact .inl (stays (f.onCursor_contexts j SearchCursor.hasMore ▸ among))
  | next j => exact .inl (stays (f.onCursor_contexts j SearchCursor.next ▸ among))
  | closeCursor j => exact .inl (stays (f.onCursor_contexts j SearchCursor.close ▸ among))
  | dropCursor j =>
      simp only [step] at among
      split at among
      · exact .inl (stays among)
      · exact .inl (stays among)
  | withSlot slot => exact .inl (stays among)

theorem step_stated {f : Fleet κ} {moves : List Move} (stated : f.Stated moves) (m : Move) :
    (f.step m).Stated (moves ++ [m]) := by
  intro c among controls
  rcases step_contexts among with ⟨c₀, old, kin⟩ | said
  · obtain ⟨base, env, controls', said⟩ := stated c₀ old controls
    refine ⟨base, env, controls', ?_⟩
    rw [kin]
    exact List.mem_append_left _ said
  · obtain ⟨base, env, controls', said⟩ := said controls
    exact ⟨base, env, controls', List.mem_append_right _ said⟩

theorem run_stated {f : Fleet κ} {earlier : List Move} (stated : f.Stated earlier)
    (moves : List Move) : (f.run moves).Stated (earlier ++ moves) := by
  induction moves generalizing f earlier with
  | nil => rwa [List.append_nil]
  | cons m rest ih =>
      have after := ih (step_stated stated m)
      rwa [List.append_assoc] at after

theorem fresh_stated (w : World κ) : (fresh w).Stated [] := fun _ among => by cases among

/-- A cursor's call connects to nobody. -/
theorem onCursor_idle {α : Type} {f : Fleet κ} (sound : f.Sound) (j : Nat)
    {x : Act κ SearchCursor α} (talks : ∀ k controls, ∃ P, (∀ r, P r → r.isBind = false) ∧
      Act.Talks (some k) P (SearchCursor.Over k controls) (fun _ => True) x) :
    f.world.network.Idle (f.onCursor j x).world.network := by
  rcases f.onCursor_cases j x with idle | ⟨cursor, found, done⟩
  · rw [idle]
    exact .refl _
  · rw [done]
    obtain ⟨controls, lies⟩ := sound.cursors cursor (List.mem_of_getElem? found)
    obtain ⟨P, silent, talk⟩ := talks cursor.link controls
    obtain ⟨-, talked, -⟩ := talk cursor f.world lies
    exact talked.network.idle silent

/-- A context that is asked for anything but to reconnect connects to nobody. -/
theorem perform_idle (f : Fleet κ) (i : Nat) {op : Op} (stays : op.opensConnection = false) :
    f.world.network.Idle (f.step (.perform i op)).world.network := by
  simp only [step]
  rcases f.onContext_cases i (LdapDirContext.perform op) with idle | ⟨c, found, done⟩
  · rw [idle]
    exact .refl _
  · rw [done]
    obtain ⟨-, w₁, talked, ends⟩ := LdapDirContext.perform_shares stays c f.world
    simp only [join_world]
    generalize LdapDirContext.perform op c f.world = x at ends ⊢
    obtain ⟨r, c', w'⟩ := x
    have during := talked.network.idle fun _ bears => bears.operates.noBind
    cases r with
    | error failure =>
        obtain rfl := ends
        exact during
    | ok reply =>
        obtain ⟨-, -, rfl⟩ := ends
        exact during.trans (w₁.network.idle_shares _ fun count => count + 1)

theorem close_idle (f : Fleet κ) (i : Nat) :
    f.world.network.Idle (f.step (.close i)).world.network := by
  simp only [step]
  rcases f.onContext_cases i LdapDirContext.close with idle | ⟨c, found, done⟩
  · rw [idle]
    exact .refl _
  · obtain ⟨w', closed, network⟩ := c.close_network f.world
    rw [done, closed]
    change f.world.network.Idle w'.network
    rw [network]
    exact f.world.network.idle_released _

/-- What a move opens, if it opens anything. -/
def Opens (f : Fleet κ) (m : Move) (o : Opening) : Prop :=
  (∃ base env, m = .openAt o.url base o.config o.credentials env o.controls) ∨
    ∃ i c controls, m = .perform i (.reconnect controls) ∧ f.contexts[i]? = some (some c) ∧
      o = c.opening controls

/-- An attempt, which leaves the other connections alone. -/
def Leads (f : Fleet κ) (m : Move) (o : Opening) : Prop :=
  f.world.network.Led o f.world.slot (f.step m).world.network ∧
    f.world.network.Continues (f.step m).world.network

theorem openAt_leads (f : Fleet κ) (o : Opening) (base : String) (env : Environment) :
    f.Leads (.openAt o.url base o.config o.credentials env o.controls) o := by
  have led := (Connection.open_sends o () f.world).led
  obtain ⟨-, grown⟩ := Connection.open_grows o.url o.config o.credentials o.controls () f.world
  simp only [Leads, step, join_world, LdapDirContext.openAt, Act.bind_apply]
  generalize Connection.open o.url o.config o.credentials o.controls () f.world = x at led grown ⊢
  obtain ⟨failure | k, s, w⟩ := x
  · exact ⟨led, grown.continues⟩
  · exact ⟨led, grown.continues⟩

theorem reconnect_leads {f : Fleet κ} (sound : f.Sound) {i : Nat} {c : LdapDirContext}
    (found : f.contexts[i]? = some (some c)) (controls : List Control) :
    f.Leads (.perform i (.reconnect controls)) (c.opening controls) := by
  have led := LdapDirContext.reconnect_sends controls c f.world
    fun k on => sound.made (Nat.add_pos_left (contextsOn_pos found on) _)
  simp only [Leads, step, onContext_found found, join_world, LdapDirContext.perform,
    Act.bind_apply]
  rcases c.reconnect_network controls f.world with
    ⟨failure, w', failed, grown⟩ | ⟨k, n, w', moved, grown, network⟩
  · rw [failed] at led ⊢
    exact ⟨led, grown.continues⟩
  · rw [moved] at led ⊢
    refine ⟨led, grown.continues.trans ?_⟩
    change n.Continues w'.network
    rw [network]
    exact (n.idle_released _).continues

/-- **One attempt at most.**  A move that opens nothing connects to nobody; one that does makes
one attempt.  No move takes back what was sent, or binds over a connection that was there. -/
theorem step_attempts {f : Fleet κ} (sound : f.Sound) (m : Move) :
    f.world.network.Idle (f.step m).world.network ∨ ∃ o, f.Opens m o ∧ f.Leads m o := by
  cases m with
  | openAt url base config credentials env controls =>
      exact .inr ⟨⟨url, config, credentials, controls⟩, .inl ⟨base, env, rfl⟩,
        f.openAt_leads ⟨url, config, credentials, controls⟩ base env⟩
  | perform i op =>
      cases opens : op.opensConnection with
      | false => exact .inl (f.perform_idle i opens)
      | true =>
          cases op with
          | reconnect controls =>
              rcases f.onContext_cases i (LdapDirContext.perform (.reconnect controls)) with
                idle | ⟨c, found, -⟩
              · refine .inl ?_
                simp only [step, idle]
                exact .refl _
              · exact .inr ⟨c.opening controls, .inr ⟨i, c, controls, rfl, found, rfl⟩,
                  reconnect_leads sound found controls⟩
          | _ => cases opens
  | close i => exact .inl (f.close_idle i)
  | drop i =>
      refine .inl ?_
      simp only [step]
      split
      · next c found =>
        change f.world.network.Idle (c.discard f.world).network
        rw [c.discard_network]
        exact f.world.network.idle_shares _ fun count => count - 1
      · exact .refl _
  | hasMore j =>
      exact .inl (onCursor_idle sound j fun k controls =>
        ⟨_, fun _ => SentRequest.Operates.noBind, SearchCursor.hasMore_reads⟩)
  | next j =>
      exact .inl (onCursor_idle sound j fun k controls =>
        ⟨_, fun _ => SentRequest.Operates.noBind, SearchCursor.next_reads⟩)
  | closeCursor j =>
      exact .inl (onCursor_idle sound j fun k controls =>
        ⟨_, fun _ => SentRequest.Operates.noBind, SearchCursor.close_reads⟩)
  | dropCursor j =>
      refine .inl ?_
      simp only [step]
      split
      · next cursor found =>
        exact f.world.network.idle_shares (some cursor.link) fun count => count - 1
      · exact .refl _
  | withSlot slot => exact .inl (.refl _)

theorem run_continues {f : Fleet κ} (sound : f.Sound) (moves : List Move) :
    f.world.network.Continues (f.run moves).world.network := by
  induction moves generalizing f with
  | nil => exact .refl _
  | cons m rest ih =>
      refine Network.Continues.trans ?_ (ih (step_sound sound m))
      rcases step_attempts sound m with idle | ⟨o, -, -, continues⟩
      · exact idle.continues
      · exact continues

theorem Opens.stated {f : Fleet κ} {moves : List Move} (stated : f.Stated moves) {m : Move}
    {o : Opening} (opens : f.Opens m o) : o.StatedIn (moves ++ [m]) := by
  rcases opens with ⟨base, env, rfl⟩ | ⟨i, c, controls, rfl, found, rfl⟩
  · exact ⟨base, env, o.controls, List.mem_append_right _ List.mem_cons_self⟩
  · obtain ⟨base, env, controls', said⟩ := stated c (List.mem_of_getElem? found) controls
    exact ⟨base, env, controls', List.mem_append_left _ said⟩

/-- Whoever bound over a connection bound after the server granted encryption, or the
connection was encrypted from the start. -/
def BindsEncrypted (u : Url) (greeting : ServerReply) (sent : List SentRequest) : Prop :=
  sent.any SentRequest.isBind = true →
    u.scheme = "ldaps" ∨ sent.head? = some .startTls ∧ greeting.grants = true

/-- Encryption that is wanted and asked for comes before any bind. -/
theorem requests_encrypted {o : Opening} {u : Url} {server : String} {greeting : ServerReply}
    {more : List SentRequest} (called : u.server? = some server)
    (wanted : o.config.useStartTls = true)
    (spelt : u.scheme = "ldap" → Url.spellsPlain o.url = true)
    (quiet : ∀ r ∈ more, r.isBind = false) :
    BindsEncrypted u greeting (o.requests u greeting ++ more) := by
  intro binds
  rcases Url.directory_scheme called with plain | encrypted
  · have asks : o.asks u = true := by
      simp [Opening.asks, Opening.startTls_eq, wanted, spelt plain, plain]
    refine .inr ⟨by simp [Opening.requests, asks], ?_⟩
    refine Classical.byContradiction fun denied => ?_
    have refused : o.allows greeting = false :=
      Bool.eq_false_iff.2 fun allowed => denied (Opening.grants_of_allows allowed)
    have silent : more.any SentRequest.isBind = false :=
      List.any_eq_false.2 fun r among => by simp [quiet r among]
    rw [Opening.requests_of_refused asks refused, List.any_append, silent] at binds
    exact absurd binds (by decide)
  · exact .inl encrypted

/-- **Encryption before identity.**  The program spells the plain addresses that it puts
together itself as plain ones.  Along every run, a move makes no attempt to connect, or one, at
an address and with a configuration that an opening move of the run gives; whatever factory is
in effect then, it asks for encryption exactly if the configuration wants it and the address is
spelt as a plain one.  At most one connection comes of it.  What is sent over that is, for good,
what opening sends and then no bind any more; so nobody binds over it in clear if encryption was
wanted and the address is spelt as a plain one if it is plain. -/
theorem encrypts_before_bind :
    (∀ config : LdapConfig, Url.IsPlain config.url → Url.spellsPlain config.url = true) ∧
    (∀ (r : LdapReferral) (target : ReferralTarget), r.destination = .ok target →
      Url.IsPlain target.serverUrl → Url.spellsPlain target.serverUrl = true) ∧
    ∀ (w : World κ) (moves : List Move) (m : Move),
      let f := (fresh w).run moves
      let n := f.world.network
      let n' := (f.step m).world.network
      (n'.dials = n.dials ∧ n'.links.length = n.links.length) ∨
      ∃ o : Opening, o.StatedIn (moves ++ [m]) ∧
        n'.dials = n.dials ++ [.configured o.url f.world.slot
          ⟨o.config.connection.connectionTimeoutSecs,
            o.config.useStartTls && Url.spellsPlain o.url, none⟩] ∧
        (n'.links.length = n.links.length ∨
          n'.links.length = n.links.length + 1 ∧ ∃ u server, Url.parse o.url = .ok u ∧
            u.server? = some server ∧ ∀ later,
              let greeting := n.greeting server
              let sent := ((f.step m).run later).sentOver n.links.length
              (∃ more, sent = o.requests u greeting ++ more ∧ ∀ r ∈ more, r.isBind = false) ∧
              (o.config.useStartTls = true →
                (u.scheme = "ldap" → Url.spellsPlain o.url = true) →
                BindsEncrypted u greeting sent)) := by
  refine ⟨LdapConfig.spelt_of_plain, fun _ _ => LdapReferral.spelt_of_plain, fun w moves m => ?_⟩
  intro f n n'
  have sound : f.Sound := run_sound (fresh_sound w) moves
  have stated : f.Stated moves := run_stated (fresh_stated w) moves
  rcases step_attempts sound m with idle | ⟨o, opens, led, -⟩
  · exact .inl ⟨idle.dials, idle.count⟩
  · refine .inr ⟨o, opens.stated stated, led.dials, led.made.imp id fun made => ?_⟩
    obtain ⟨one, u, server, parsed, called, first⟩ := made
    refine ⟨one, u, server, parsed, called, fun later => ?_⟩
    intro greeting sent
    have continues := run_continues (step_sound sound m) later
    obtain ⟨more, same, quiet⟩ := continues.sent n.links.length (one ▸ Nat.lt_succ_self _)
    have all : sent = o.requests u greeting ++ more := same.trans (congrArg (· ++ more) first)
    refine ⟨⟨more, all, quiet⟩, fun wanted spelt => ?_⟩
    rw [all]
    exact requests_encrypted called wanted spelt quiet

/-- An address from the properties may be plain without being spelt so: then encryption that the
configuration wants is not asked for, and the password goes in clear. -/
theorem shouted_scheme_binds_in_clear :
    ¬ ∀ (config : LdapConfig) (credentials : Credentials) (env : Environment),
      config.fault? = none → config.useStartTls = true →
      Url.IsPlain ((env.get? Property.providerUrl).getD config.url) →
      let f := (fresh { network := .loopback [⟨"h:389", [[]]⟩] } : Fleet Unit).run
        [.openAt ((env.get? Property.providerUrl).getD config.url) config.baseDn config
          credentials env []]
      f.world.network.dials.all Dial.startTls = true ∧
        (f.sentOver 0).head?.any SentRequest.isBind = false := by
  intro always
  have clear := always { host := "h", baseDn := "dc=x", useStartTls := true } ⟨"cn=a", "secret"⟩
    (OrderedMap.empty.insert Property.providerUrl "LDAP://h") (by decide +kernel) rfl
    ⟨⟨"ldap", some "h", none, ""⟩, by rfl, rfl⟩
  exact absurd clear (by decide +kernel)

end Fleet

end ManagedLdap
