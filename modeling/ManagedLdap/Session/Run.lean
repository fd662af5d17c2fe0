/-
# ManagedLdap.Session.Run -- carrying out a session

`Action.run` carries out one step and `Script.run` a sequence of them; a step that fails
is reported and the next one goes on.  `Session.run` begins with nothing kept, runs a
script, and drops what is left: cursors, then contexts in the order of their names, then
the contexts in the pool.
-/
import ManagedLdap.Session.Tables

namespace ManagedLdap.Session

set_option autoImplicit false

open Work

/-! ## Steps -/

/-- Open an initial context. -/
def InitialSource.use (source : InitialSource) (run : Work (Context Plain) → Work Outcome) :
    Work Outcome :=
  match source with
  | .factory name => withFactory name fun f => run ((fun c => .plain (.inl c)) <$> f.initialContext)
  | .scripted failure => run do
      Act.record .initialContext
      match failure with
      | some f => Act.failWith f
      | none => return .plain (.inr { name := "initial", ldap := true })

/-- Lend the socket factory of a facade.  A context that is not known as a facade lends
none. -/
def lending (facade : Option String)
    (run : (Work (Context Plain) → Work (Context Plain)) → Work Outcome) : Work Outcome :=
  match facade with
  | none => run id
  | some name => withContext name fun held =>
      run (if held.asFacade then held.context.openFor else id)

/-- The context an action is to put behind a facade. -/
def Wrapped.use (inner : Wrapped) (run : Context Plain → Work Outcome) : Work Outcome :=
  match inner with
  | .scripted context => run (.plain (.inr context))
  | .kept name => withContext name fun held => do
      takeContext name
      run held.context

/-- Carry out one step. -/
def Action.run (files : HostFiles) : Action → Work Outcome
  | .malformed => return .refused
  | .script context into => .context <$> keepNamed into ⟨.plain (.inr context), false⟩
  | .wrap inner factory handler into => inner.use fun c => do
      match handler with
      | some handler => keep into ⟨.pooled c handler factory, true⟩
      | none => keep into ⟨.derived c factory, true⟩
      return .done
  | .makeFactory config factory into => do
      let made ← ContextFactory.new files config
      let made := match factory with
        | some factory => made.withSocketFactory factory
        | none => made
      keepFactory into made
      return .factory made.config.url (made.socketFactory.map SocketFactory.describe)
  | .showFactory name => withFactory name fun f => return .text f.shown.render
  | .obtain name mode credentials handler into => withFactory name fun f => do
      let c ← match credentials, handler with
        | some credentials, _ => f.obtainWithCredentials .inl credentials mode
        | none, some handler => f.obtainWithCloseHandler .inl mode handler
        | none, none => f.obtain .inl mode
      .context <$> keepNamed into ⟨c, true⟩
  | .connect config credentials env into => do
      let c ← LdapDirContext.connect config credentials env
      let name ← keepNamed into ⟨.plain (.inl c), false⟩
      return .connected name c.referralMode
  | .initial facade source into => lending facade fun lend => source.use fun x => do
      let c ← lend x
      .context <$> keepNamed into ⟨c, false⟩
  | .pool => do
      let w ← Act.world
      .names <$> w.pool.mapM fun c => Act.ofExcept c.nameOf
  | .takePooled into => do
      let w ← Act.world
      match w.pool with
      | [] => return .done
      | c :: rest =>
          Act.updateWorld fun w => { w with pool := rest }
          .context <$> keepNamed into ⟨c, false⟩
  | .refer referral into => do
      keepReferral into (.scripted referral)
      return .done
  | .tellReferral name => withReferral name fun r => return .referral r.urls r.text
  | .showReferral name => withReferral name fun r => return .text r.shown.render
  | .skipReferral name => withReferral name fun r => do
      let (moved, r) := r.skip
      keepReferral name r
      return .flag moved
  | .openReferral name into => withReferral name fun r => do
      let c ← r.connect
      .context <$> keepNamed into ⟨.plain c, false⟩
  | .raiseReferral name => withReferral name fun r => do
      Act.update fun t => { t with referrals := t.referrals.erase name }
      Act.fail (.referral r)
  | .follow facade referral into => withContext facade fun held =>
      if held.asFacade then withReferral referral fun r => do
        let c ← held.context.follow (.plain <$> r.connect)
        .context <$> keepNamed into ⟨c, true⟩
      else return .missing facade
  | .installFactory factory => do
      Act.updateWorld fun w => { w with slot := SocketScope.install factory w.slot }
      return .done
  | .clearFactory => do
      Act.updateWorld fun w => { w with slot := SocketScope.clear w.slot }
      return .done
  | .drop name => withContext name fun held => do
      takeContext name
      dropContext held.context
      return .done
  | .inspect name => withContext name fun held =>
      let c := held.context
      if held.asFacade then
        return .facade c.hasCloseHandler c.isClosed (c.factory?.map SocketFactory.describe)
      else return .capability c.offersLdap
  | .showContext name => withContext name fun held => return .text held.context.shown.render
  | .ask name query => withContext name fun held =>
      if query.ldapName?.isSome && !held.context.offersLdap then return .noLdap
      else .answer <$> Act.ofExcept (held.context.ask query)
  | .perform name op into => withContext name fun held =>
      if op.ldapName?.isSome && !held.context.offersLdap then return .noLdap
      else do
        let reply ← callContext name held fun c w => c.perform op w
        deliver into reply
  | .close name => withContext name fun held => do
      callContext name held Context.close
      return .done
  | .hasMore name => withCursor name (.flag <$> HeldCursor.hasMore)
  | .next name => withCursor name (.item <$> HeldCursor.next)
  | .collect name => withCursor name do
      let (items, failure) ← HeldCursor.collect
      match failure with
      | some .panic => Act.failWith .panic
      | failure => return .items items failure
  | .closeCursor name => withCursor name do
      HeldCursor.close
      return .done
  | .dropCursor name => do
      let t ← Act.self
      match t.cursors.get? name with
      | none => return .missing name
      | some cursor =>
          Act.update fun t => { t with cursors := t.cursors.erase name }
          Act.updateWorld cursor.discard
          return .done

/-- Carry out one step and report it.  The step itself never fails. -/
def Action.report (files : HostFiles) (action : Action) (referralInto : Option String) :
    Work Report := do
  let before ← Act.world
  let outcome ← Act.outcome (action.run files)
  let outcome := match outcome with
    | .ok outcome => outcome
    | .error failure => .failed failure
  match referralInto, outcome.referral? with
  | some into, some referral => keepReferral into referral
  | _, _ => pure ()
  let after ← Act.world
  return .step outcome (.between before after) after.slot

/-! ## Sessions -/

/-- Carry out a sequence of steps. -/
def Script.run (files : HostFiles) : Script → Work (List Report)
  | .done => return []
  | .act action referralInto rest => do
      let report ← action.report files referralInto
      let reports ← rest.run files
      return report :: reports
  | .thread body rest => do
      let inner ← onThread (body.run files)
      let w ← Act.world
      let reports ← rest.run files
      return .thread inner w.slot :: reports

/-- Drop everything that is left, with an empty slot. -/
def finish : Work Unit := do
  let t ← Act.self
  Act.update fun _ => {}
  Act.updateWorld fun w => { w with slot := SocketScope.clear w.slot }
  Act.updateWorld fun w => t.cursors.entries.foldl (fun w e => e.2.discard w) w
  dropContexts (t.contexts.entries.map fun e => e.2.context)
  let w ← Act.world
  Act.updateWorld fun w => { w with pool := [] }
  dropContexts w.pool

/-- Run a session on a host where these servers run.  There is no report when the host
cannot run them, or when dropping the leftovers panics. -/
def run (host : Network.Host) (files : HostFiles) (listeners : List Listener)
    (script : Script) : Option Transcript := do
  let network ← Network.ofHost host listeners
  match script.run files {} { network := { network with socketFault := files.socketFault } } with
  | (.error _, _, _) => none
  | (.ok reports, t, w) =>
      match finish t w with
      | (.error _, _, _) => none
      | (.ok _, _, after) => some ⟨reports, .between w after, after.network.links⟩

end ManagedLdap.Session
