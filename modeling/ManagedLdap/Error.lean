/-
# ManagedLdap.Error -- how directory operations fail

`DirError` lists the causes; each has one code and one wording, and one question is
asked of it, whether trying again may help.  Two mappings lead into it: from the result
of a directory operation, whose code decides, and from a failure of the client library,
which keeps its own wording behind a fixed introduction.
-/
import ManagedLdap.Referral.Basic
import ManagedLdap.Url

namespace ManagedLdap

set_option autoImplicit false

/-! ## Causes -/

/-- Why a directory operation failed. -/
inductive DirError where
  | nameNotFound (name : String)
  | nameAlreadyBound (name : String)
  | authenticationFailed
  | noPermission (operation : String)
  | limitExceeded (message : String)
  | partialResult (message : String)
  | timeout (message : String)
  /-- The transport failed, with the wording of what lies behind it. -/
  | communication (message : String) (source : Option String)
  /-- A result code without a cause of its own. -/
  | protocol (code : Nat) (message : String)
  | referral (referral : Referral)
  | unsupported (operation : String)
  | closed
  | invalidConfiguration (message : String)
  | invalidData (message : String)
  deriving DecidableEq

namespace DirError

/-- The code of a cause. -/
def code : DirError → String
  | .nameNotFound _ => "NAME_NOT_FOUND"
  | .nameAlreadyBound _ => "NAME_ALREADY_BOUND"
  | .authenticationFailed => "AUTH_FAILED"
  | .noPermission _ => "NO_PERMISSION"
  | .limitExceeded _ => "LIMIT_EXCEEDED"
  | .partialResult _ => "PARTIAL_RESULT"
  | .timeout _ => "TIMEOUT"
  | .communication .. => "COMMUNICATION"
  | .protocol .. => "PROTOCOL"
  | .referral _ => "REFERRAL"
  | .unsupported _ => "UNSUPPORTED"
  | .closed => "CLOSED"
  | .invalidConfiguration _ => "INVALID_CONFIG"
  | .invalidData _ => "INVALID_DATA"

/-- The wording of a cause. -/
def message : DirError → String
  | .nameNotFound name => "name not found: " ++ name
  | .nameAlreadyBound name => "name already bound: " ++ name
  | .authenticationFailed => "authentication failed: invalid credentials"
  | .noPermission operation => "insufficient access rights for " ++ operation
  | .limitExceeded message => "limit exceeded: " ++ message
  | .partialResult message => "partial result: " ++ message
  | .timeout message => "operation timed out: " ++ message
  | .communication message _ => "communication failure: " ++ message
  | .protocol code message =>
      "protocol error (result code " ++ toString code ++ "): " ++ message
  | .referral r => r.text
  | .unsupported operation => "operation not supported: " ++ operation
  | .closed => "context has been closed"
  | .invalidConfiguration message => "invalid configuration: " ++ message
  | .invalidData message => "invalid data: " ++ message

/-- The wording of what lies behind a cause. -/
def source? : DirError → Option String
  | .communication _ source => source
  | _ => none

/-- Whether trying again may help. -/
def isTransient : DirError → Bool
  | .timeout _ => true
  | .communication .. => true
  | .protocol code _ => code == 51 || code == 52
  | _ => false

/-- Whether trying again cannot help. -/
def isPermanent (e : DirError) : Bool := !e.isTransient

end DirError

/-! ## Results -/

/-- The result of a directory operation. -/
structure LdapResult where
  code : Nat := 0
  matched : String := ""
  text : String := ""
  refs : List String := []
  controls : List Control := []
  deriving DecidableEq, Repr, Inhabited

namespace LdapResult

/-- The standard name of a result code. -/
def codeName : Nat → String
  | 0 => "success"
  | 1 => "operationsError"
  | 2 => "protocolError"
  | 3 => "timeLimitExceeded"
  | 4 => "sizeLimitExceeded"
  | 5 => "compareFalse"
  | 6 => "compareTrue"
  | 7 => "authMethodNotSupported"
  | 8 => "strongerAuthRequired"
  | 10 => "referral"
  | 11 => "adminLimitExceeded"
  | 12 => "unavailableCriticalExtension"
  | 13 => "confidentialityRequired"
  | 14 => "saslBindInProgress"
  | 16 => "noSuchAttribute"
  | 17 => "undefinedAttributeType"
  | 18 => "inappropriateMatching"
  | 19 => "constraintViolation"
  | 20 => "attributeOrValueExists"
  | 21 => "invalidAttributeSyntax"
  | 32 => "noSuchObject"
  | 33 => "aliasProblem"
  | 34 => "invalidDNSyntax"
  | 36 => "aliasDereferencingProblem"
  | 48 => "inappropriateAuthentication"
  | 49 => "invalidCredentials"
  | 50 => "insufficientAccessRights"
  | 51 => "busy"
  | 52 => "unavailable"
  | 53 => "unwillingToPerform"
  | 54 => "loopDetect"
  | 64 => "namingViolation"
  | 65 => "objectClassViolation"
  | 66 => "notAllowedOnNonLeaf"
  | 67 => "notAllowedOnRDN"
  | 68 => "entryAlreadyExists"
  | 69 => "objectClassModsProhibited"
  | 71 => "affectsMultipleDSAs"
  | 80 => "other"
  | 88 => "abandoned"
  | 122 => "assertionFailed"
  | _ => "unknown"

end LdapResult

namespace DirError

/-- The cause behind a result that is no success, for the entry `name`. -/
def ofResult (result : LdapResult) (name : String) : DirError :=
  let message := if result.text.isEmpty then "result code " ++ toString result.code
    else result.text
  match result.code with
  | 32 => .nameNotFound name
  | 68 => .nameAlreadyBound name
  | 49 => .authenticationFailed
  | 50 => .noPermission (name ++ ": " ++ message)
  | 3 => .limitExceeded message
  | 4 => .limitExceeded message
  | 11 => .limitExceeded message
  | code => .protocol code message

end DirError

/-! ## Failures of the client library -/

/-- Why the client library could not carry out a request. -/
inductive ClientError where
  | result (result : LdapResult)
  | timeout
  /-- Reading or writing failed, with the wording of the system. -/
  | io (text : String)
  | emptyUnixPath
  | portInUnixPath
  | filterParsing
  | endOfStream
  | urlParsing (fault : String)
  | unknownScheme (scheme : String)
  | addNoValues
  | adapterInit (text : String)
  | decodingUtf8
  | invalidScope (text : String)
  | unrecognizedExtension (text : String)
  /-- The connection was closed before the request. -/
  | sendOnClosed
  /-- The connection was closed before the response. -/
  | receiveOnClosed
  deriving DecidableEq, Repr

namespace ClientError

/-- The wording of a limit that was reached. -/
def elapsed : String := "deadline has elapsed"

/-- The wording of a failure. -/
def text : ClientError → String
  | .result r =>
      "LDAP operation result: rc=" ++ toString r.code ++ " (" ++ LdapResult.codeName r.code ++
        "), dn: \"" ++ r.matched ++ "\", text: \"" ++ r.text ++ "\""
  | .timeout => "timeout: " ++ elapsed
  | .io text => "I/O error: " ++ text
  | .emptyUnixPath => "empty Unix domain socket path"
  | .portInUnixPath => "the port must be empty in the ldapi scheme"
  | .filterParsing => "filter parse error"
  | .endOfStream => "premature end of search stream"
  | .urlParsing fault => "url parse error: " ++ fault
  | .unknownScheme scheme => "unknown LDAP URL scheme: " ++ scheme
  | .addNoValues => "empty value set for Add"
  | .adapterInit text => "adapter init error: " ++ text
  | .decodingUtf8 => "utf8 decoding error"
  | .invalidScope text => "invalid scope string in LDAP URL: " ++ text
  | .unrecognizedExtension text => "unrecognized critical LDAP URL extension: " ++ text
  | .sendOnClosed => "op send error: channel closed"
  | .receiveOnClosed => "result recv error: channel closed"

end ClientError

namespace DirError

/-- The cause behind a failure of the client library. -/
def ofClient : ClientError → DirError
  | .result r => ofResult r r.matched
  | .timeout => .timeout ClientError.elapsed
  | .io text => .communication "I/O error on LDAP connection" (some text)
  | other => .communication ("LDAP client error: " ++ other.text) none

end DirError

end ManagedLdap
