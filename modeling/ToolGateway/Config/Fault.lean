import ToolGateway.Config.Basic

/-!
# Faults of a configuration

What can be wrong with a configuration that could be read, each with the text that reports it.
-/

namespace ToolGateway.Config

/-- The greatest size of a request body, in bytes. -/
def maxBodyBound : Nat := 16 * mebibyte

/-- The least and the greatest window, in milliseconds. -/
def windowBounds : Nat × Nat := (100, 3600000)

/-- The greatest timeout, in milliseconds. -/
def timeoutBound : Nat := 600000

/-- The greatest size of an answer, in bytes. -/
def maxAnswerBound : Nat := 64 * mebibyte

/-- What can be wrong with a path. -/
inductive PathFault where
  | empty
  | tooLong
  | longPart
  deriving DecidableEq, Repr

/-- What can be wrong with a tool server whose label is right. -/
inductive ServerFault where
  | notUrl
  | notWeb
  | noHost
  | hasUser
  | hasQuery
  | schemeMissing
  | credentialMissing (scheme : Scheme)
  | credentialNotBase64
  | breaker
  deriving DecidableEq, Repr

/-- What can be wrong with a configuration. -/
inductive Fault where
  | bodyBound
  | tooManyCallers
  | callersWithoutTokens
  | tokensWithoutCallers
  | callerId
  | callerIdColon
  | callerIdTwice (id : String)
  | tokenMissing
  | tokenTooLong
  | tokenBlank
  | tokenTwice
  | bind
  | bindNotLocal
  | keyVariableMissing
  | keyVariableName
  | rateZero
  | rateTooLarge
  | window
  | timeout (field : String)
  | timeoutOrder
  | answerBound
  | auditPathMissing
  | auditPathUnused
  | auditPath (fault : PathFault)
  | tooManyServers
  | labelMissing
  | labelTooLong (label : String)
  | labelCharacter (label : String)
  | labelTwice (label : String)
  | server (label : String) (fault : ServerFault)
  | tooManyRows
  | rowBlank (field : String)
  | overrideTwice (agent tool : String)
  deriving DecidableEq, Repr

/-- The text of a fault of a path. -/
def PathFault.message : PathFault → String
  | .empty => "must be non-empty"
  | .tooLong => "exceeds max length"
  | .longPart => "path component too long"

/-- The text of a fault of a tool server, behind its label. -/
def ServerFault.message : ServerFault → String
  | .notUrl => "endpoint is not a valid url"
  | .notWeb => "endpoint must use http:// or https://"
  | .noHost => "endpoint must include a host"
  | .hasUser => "endpoint must not embed credentials"
  | .hasQuery => "endpoint must not include a query or fragment"
  | .schemeMissing => "auth_credential requires auth_type bearer or basic"
  | .credentialMissing scheme => "auth_credential is required for auth_type " ++ scheme.name
  | .credentialNotBase64 => "auth_credential must be base64 ciphertext"
  | .breaker =>
    "circuit_breaker: invalid circuit breaker config: not an object of whole numbers"

/-- The text for a number outside of its bounds. -/
def betweenMessage (field : String) (low high : Nat) : String :=
  field ++ " must be between " ++ Nat.repr low ++ " and " ++ Nat.repr high

/-- The text of a fault. -/
def Fault.message : Fault → String
  | .bodyBound => betweenMessage "server.max_body_bytes" 1 maxBodyBound
  | .tooManyCallers => "too many server.auth.callers"
  | .callersWithoutTokens => "server.auth.callers requires bearer_token mode"
  | .tokensWithoutCallers =>
    "bearer_token mode requires at least one server.auth.callers entry"
  | .callerId => "server.auth.callers id must be non-empty without surrounding whitespace"
  | .callerIdColon => "server.auth.callers id must not contain ':'"
  | .callerIdTwice id => "server.auth.callers id must be unique: " ++ id
  | .tokenMissing => "server.auth.callers token must be set"
  | .tokenTooLong => "server.auth.callers token too long"
  | .tokenBlank => "server.auth.callers token must not contain whitespace"
  | .tokenTwice => "server.auth.callers tokens must be unique"
  | .bind => "server.bind is not a valid address"
  | .bindNotLocal => "non-loopback bind disallowed with local_only auth"
  | .keyVariableMissing => "credentials.key_env must be non-empty"
  | .keyVariableName => "credentials.key_env must be an environment variable name"
  | .rateZero => "rate_limit max_requests must be greater than zero"
  | .rateTooLarge => "rate_limit max_requests too large"
  | .window => betweenMessage "rate_limit window_ms" windowBounds.1 windowBounds.2
  | .timeout field => betweenMessage field 1 timeoutBound
  | .timeoutOrder => "forwarder.connect_timeout_ms must not exceed request_timeout_ms"
  | .answerBound => betweenMessage "forwarder.max_response_bytes" 1 maxAnswerBound
  | .auditPathMissing => "audit.path is required for the file sink"
  | .auditPathUnused => "audit.path is only valid with the file sink"
  | .auditPath fault => "audit.path " ++ fault.message
  | .tooManyServers => "too many upstreams"
  | .labelMissing => "upstreams.label must be non-empty"
  | .labelTooLong label => "upstreams.label too long: " ++ label
  | .labelCharacter label => "upstreams.label may only contain [A-Za-z0-9._-]: " ++ label
  | .labelTwice label => "upstreams.label must be unique: " ++ label
  | .server label fault => "upstreams[" ++ label ++ "]." ++ fault.message
  | .tooManyRows => "too many trust entries"
  | .rowBlank field => field ++ " must be non-empty"
  | .overrideTwice agent tool =>
    "duplicate trust.agent_overrides entry for " ++ agent ++ "/" ++ tool

end ToolGateway.Config
