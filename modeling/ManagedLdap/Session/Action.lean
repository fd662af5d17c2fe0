/-
# ManagedLdap.Session.Action -- what a session is told to do

A session keeps contexts, cursors, referrals and factories under names of its own, and is
told step by step what to do with them.  An `Action` is one step; `Script` is a sequence
of them, some of which run on a thread of their own.  Whatever an action makes is kept
under the name `into`; whatever it uses is found under the name it is given.
-/
import ManagedLdap.ContextFactory
import ManagedLdap.Referral.Connect

namespace ManagedLdap.Session

set_option autoImplicit false

/-- Where an initial context comes from: a factory, or a scripted one that may fail. -/
inductive InitialSource where
  | factory (name : String)
  | scripted (failure : Option Failure)

/-- The context that is put behind a facade: one that is kept, or a new scripted one. -/
inductive Wrapped where
  | kept (name : String)
  | scripted (context : ScriptedContext)

/-- A step of a session. -/
inductive Action where
  /-- A step whose description cannot be read; it is refused. -/
  | malformed
  /-- Keep a scripted context. -/
  | script (context : ScriptedContext) (into : String)
  /-- Put a context behind a facade: a pooled one if there is a close handler, else a
  derived one. -/
  | wrap (inner : Wrapped) (factory : Option SocketFactory) (handler : Option CloseHandler)
      (into : String)
  /-- Make a factory of contexts, perhaps with another socket factory. -/
  | makeFactory (config : LdapConfig) (factory : Option SocketFactory) (into : String)
  | showFactory (factory : String)
  /-- Obtain a context from a factory. -/
  | obtain (factory : String) (mode : ReferralMode) (credentials : Option Credentials)
      (handler : Option CloseHandler) (into : String)
  /-- Connect without a factory. -/
  | connect (config : LdapConfig) (credentials : Credentials) (env : Environment)
      (into : String)
  /-- Open an initial context, through a facade if one is named. -/
  | initial (facade : Option String) (source : InitialSource) (into : String)
  /-- Tell the names of the contexts in the pool. -/
  | pool
  /-- Take the first context out of the pool. -/
  | takePooled (into : String)
  /-- Keep a scripted referral. -/
  | refer (referral : ScriptedReferral) (into : String)
  | tellReferral (referral : String)
  | showReferral (referral : String)
  | skipReferral (referral : String)
  /-- Open the context of a referral with nothing around it. -/
  | openReferral (referral into : String)
  /-- Fail with a referral. -/
  | raiseReferral (referral : String)
  /-- Open the context of a referral through a facade. -/
  | follow (facade referral into : String)
  | installFactory (factory : SocketFactory)
  | clearFactory
  /-- Drop a context. -/
  | drop (context : String)
  /-- Tell what can be told of a context from outside. -/
  | inspect (context : String)
  | showContext (context : String)
  | ask (context : String) (query : Query)
  /-- Carry out an operation; what it hands out is kept. -/
  | perform (context : String) (op : Op) (into : String)
  | close (context : String)
  | hasMore (cursor : String)
  | next (cursor : String)
  | collect (cursor : String)
  | closeCursor (cursor : String)
  | dropCursor (cursor : String)

/-- A sequence of steps.  A step that fails with a referral may keep it under a name. -/
inductive Script where
  | done
  | act (action : Action) (keepReferral : Option String) (rest : Script)
  /-- Steps on a thread of their own, whose slot is empty at first. -/
  | thread (body rest : Script)
  deriving Inhabited

end ManagedLdap.Session
