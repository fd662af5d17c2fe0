/-
# ManagedLdap.Session.Tables -- what a session keeps

Contexts, cursors, referrals and factories, each under a name.  Keeping something under a
name that is taken drops what was kept there, after the new one has been put in place.  A
context in use stays kept, whatever comes of it; a cursor whose call panics is lost.
-/
import ManagedLdap.Session.Outcome

namespace ManagedLdap.Session

set_option autoImplicit false

/-- A context that is kept. -/
structure Held where
  context : Context Plain
  /-- Whether the session knows it as a facade. -/
  asFacade : Bool

/-- A cursor that is kept. -/
inductive HeldCursor where
  | entries (c : Cursor PlainCursor)
  | children (c : Cursor (List NameClassPair))

namespace HeldCursor

variable {κ : Type}

def hasMore : Act κ HeldCursor Bool
  | .entries c, w => Act.wrapped .entries c Cursor.hasMore w
  | .children c, w => Act.wrapped .children c Cursor.hasMore w

def next : Act κ HeldCursor (Option Item)
  | .entries c, w => Act.wrapped .entries c (Option.map .entry <$> Cursor.next) w
  | .children c, w => Act.wrapped .children c (Option.map .child <$> Cursor.next) w

def collect : Act κ HeldCursor (List Item × Option Failure)
  | .entries c, w =>
      Act.wrapped .entries c ((fun r => (r.1.map .entry, r.2)) <$> Cursor.collect) w
  | .children c, w =>
      Act.wrapped .children c ((fun r => (r.1.map .child, r.2)) <$> Cursor.collect) w

def close : Act κ HeldCursor Unit
  | .entries c, w => Act.wrapped .entries c Cursor.close w
  | .children c, w => Act.wrapped .children c Cursor.close w

def discard : HeldCursor → World κ → World κ
  | .entries c, w => c.discard w
  | .children c, w => c.discard w

end HeldCursor

/-- What a session keeps. -/
structure Tables where
  contexts : OrderedMap Held := OrderedMap.empty
  cursors : OrderedMap HeldCursor := OrderedMap.empty
  referrals : OrderedMap Referral := OrderedMap.empty
  factories : OrderedMap ContextFactory := OrderedMap.empty

/-- Work on what a session keeps. -/
abbrev Work (α : Type) : Type := Act (Context Plain) Tables α

namespace Work

/-! ## Keeping -/

/-- Drop a context that is not kept. -/
def dropContext (c : Context Plain) : Work Unit := fun t w =>
  match c.drop w with
  | (r, w) => (r, t, w)

/-- Drop contexts that are not kept, in order. -/
def dropContexts (cs : List (Context Plain)) : Work Unit := fun t w =>
  match Context.dropAll cs w with
  | (r, w) => (r, t, w)

/-- Keep a context. -/
def keep (into : String) (held : Held) : Work Unit := do
  let t ← Act.self
  Act.update fun t => { t with contexts := t.contexts.insert into held }
  match t.contexts.get? into with
  | some older => dropContext older.context
  | none => return ()

/-- Keep a context and tell its name. -/
def keepNamed (into : String) (held : Held) : Work (Option String) :=
  match held.context.nameOf with
  | .ok name => do
      keep into held
      return name
  | .error f => do
      dropContext held.context
      Act.failWith f

/-- Keep a cursor. -/
def keepCursor (into : String) (cursor : HeldCursor) : Work Unit := do
  let t ← Act.self
  Act.update fun t => { t with cursors := t.cursors.insert into cursor }
  match t.cursors.get? into with
  | some older => Act.updateWorld older.discard
  | none => return ()

/-- Keep a referral. -/
def keepReferral (into : String) (referral : Referral) : Work Unit :=
  Act.update fun t => { t with referrals := t.referrals.insert into referral }

/-- Keep a factory. -/
def keepFactory (into : String) (factory : ContextFactory) : Work Unit :=
  Act.update fun t => { t with factories := t.factories.insert into factory }

/-- Keep what an operation hands out, and tell what it handed out. -/
def deliver (into : String) : Reply (Context Plain) (Cursor PlainCursor) → Work Outcome
  | .done => return .done
  | .context c => .context <$> keepNamed into ⟨c, false⟩
  | .listing items => do
      keepCursor into (.children (.bare items))
      return .done
  | .attributes attrs => return .attributes attrs
  | .definitions texts => return .definitions texts
  | .entries cursor => do
      keepCursor into (.entries cursor)
      return .done
  | .previous value => return .previous value
  | .extended response => return .extended response

/-! ## Using -/

/-- Use the context of a name. -/
def withContext (name : String) (use : Held → Work Outcome) : Work Outcome := do
  let t ← Act.self
  match t.contexts.get? name with
  | some held => use held
  | none => return .missing name

/-- Use the referral of a name. -/
def withReferral (name : String) (use : Referral → Work Outcome) : Work Outcome := do
  let t ← Act.self
  match t.referrals.get? name with
  | some referral => use referral
  | none => return .missing name

/-- Use the factory of a name. -/
def withFactory (name : String) (use : ContextFactory → Work Outcome) : Work Outcome := do
  let t ← Act.self
  match t.factories.get? name with
  | some factory => use factory
  | none => return .missing name

/-- A call of the cursor of a name. -/
def withCursor (name : String) (call : Act (Context Plain) HeldCursor Outcome) :
    Work Outcome := do
  let t ← Act.self
  match t.cursors.get? name with
  | none => return .missing name
  | some cursor =>
      let (r, cursor) ← Act.on cursor call
      match r with
      | .error .panic =>
          Act.update fun t => { t with cursors := t.cursors.erase name }
          Act.updateWorld cursor.discard
          Act.failWith .panic
      | r =>
          Act.update fun t => { t with cursors := t.cursors.insert name cursor }
          Act.ofExcept r

/-- A call of a context that is kept under a name. -/
def callContext {α : Type} (name : String) (held : Held)
    (call : Context Plain → World (Context Plain) →
      Except Failure α × Context Plain × World (Context Plain)) : Work α := fun t w =>
  match call held.context w with
  | (r, c, w) =>
      (r, { t with contexts := t.contexts.insert name { held with context := c } }, w)

/-- Take a context out of its place. -/
def takeContext (name : String) : Work Unit :=
  Act.update fun t => { t with contexts := t.contexts.erase name }

/-- Do something on a thread of its own. -/
def onThread {α : Type} (x : Work α) : Work α := fun t w =>
  match x t { w with slot := none } with
  | (r, t, after) => (r, t, { after with slot := w.slot })

end Work

end ManagedLdap.Session
