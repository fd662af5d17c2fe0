/-
# ManagedLdap.ContextFactory -- where contexts come from

A `ContextFactory` hands out contexts behind facades: each over a connection of its own,
opened with the factory's socket factory in scope, and closed with its facade unless the
caller brings a close handler.  `ContextFactory.new` refuses a configuration that cannot
be used; what it accepts in spite of doubts it warns about.

`LdapConfig.initialContext` opens a context with nothing around it, under whatever socket
factory is in effect.
-/
import ManagedLdap.Ldap.Backend

namespace ManagedLdap

set_option autoImplicit false

variable {κ σ : Type}

/-! ## Checks that warn -/

namespace Act

/-- A call that needs neither an object nor a world: its outcome and its warnings. -/
def alone {α : Type} (x : Act Empty Unit α) : Except Failure α × List Warning :=
  match x () { network := .isolated } with
  | (r, _, w) => (r, w.warnings)

end Act

namespace TlsConfig

/-- Warn of settings that encrypt towards a peer nobody checks. -/
def warnOf (c : TlsConfig) : Act κ σ Unit :=
  if c.isInsecure then Act.warn .insecureTls else return ()

/-- The socket factory of the settings. -/
def socketFactory (c : TlsConfig) (files : HostFiles) : Act κ σ SocketFactory := do
  c.warnOf
  match SocketFactory.ofTls files c with
  | .ok factory => return factory
  | .error fault => Act.fail (.invalidConfiguration fault.message)

end TlsConfig

namespace LdapConfig

/-- Refuse a configuration that has a fault. -/
def validate (c : LdapConfig) : Act κ σ Unit :=
  match c.fault? with
  | some fault => Act.fail (.invalidConfiguration fault.message)
  | none => c.tls.warnOf

/-- The configured identity. -/
def credentials (c : LdapConfig) : Credentials := ⟨c.bindDn, c.password⟩

/-- Open a context with the configured identity. -/
def initialContext (c : LdapConfig) : Act κ σ LdapDirContext :=
  LdapDirContext.connect c c.credentials c.referral.environment

end LdapConfig

/-! ## Factories -/

/-- A factory of contexts. -/
structure ContextFactory where
  config : LdapConfig
  /-- What configures the connections of the contexts. -/
  socketFactory : Option SocketFactory
  deriving DecidableEq, Repr

namespace ContextFactory

/-- A factory of a configuration.  The socket factory of its TLS section is built once,
here, if the section is enabled. -/
def new (files : HostFiles) (config : LdapConfig) : Act κ σ ContextFactory := do
  config.validate
  if config.tls.enabled then
    let factory ← config.tls.socketFactory files
    return ⟨config, some factory⟩
  else return ⟨config, none⟩

/-- The same factory with another socket factory. -/
def withSocketFactory (f : ContextFactory) (factory : SocketFactory) : ContextFactory :=
  { f with socketFactory := some factory }

/-- Open a context of an identity, with the socket factory in scope. -/
def connect (f : ContextFactory) (credentials : Credentials) (mode : ReferralMode) :
    Act κ σ LdapDirContext :=
  Act.under f.socketFactory (LdapDirContext.connect f.config credentials mode.environment)

/-- Hand out a context behind a facade.  `asPlain` makes it a plain context of the pool's
kind. -/
def obtainAs {ℓ : Type} (asPlain : LdapDirContext → ℓ) (f : ContextFactory)
    (credentials : Credentials) (mode : ReferralMode) (handler : CloseHandler) :
    Act κ σ (Context ℓ) := do
  let context ← f.connect credentials mode
  return Context.pooled (.plain (asPlain context)) handler f.socketFactory

/-- A context of the configured identity; closing its facade closes it. -/
def obtain {ℓ : Type} (asPlain : LdapDirContext → ℓ) (f : ContextFactory)
    (mode : ReferralMode) : Act κ σ (Context ℓ) :=
  f.obtainAs asPlain f.config.credentials mode .closing

/-- A context of the configured identity; closing its facade runs the handler. -/
def obtainWithCloseHandler {ℓ : Type} (asPlain : LdapDirContext → ℓ) (f : ContextFactory)
    (mode : ReferralMode) (handler : CloseHandler) : Act κ σ (Context ℓ) :=
  f.obtainAs asPlain f.config.credentials mode handler

/-- A context of another identity; closing its facade closes it. -/
def obtainWithCredentials {ℓ : Type} (asPlain : LdapDirContext → ℓ) (f : ContextFactory)
    (credentials : Credentials) (mode : ReferralMode) : Act κ σ (Context ℓ) :=
  f.obtainAs asPlain credentials mode .closing

/-- Open a context with the configured identity and nothing around it. -/
def initialContext (f : ContextFactory) : Act κ σ LdapDirContext := f.config.initialContext

def shown (f : ContextFactory) : Shown :=
  .record "SimpleDirContextFactory"
    [("config", f.config.shown),
      ("socket_factory", .option SocketFactory.shown f.socketFactory)] false

end ContextFactory

end ManagedLdap
