import ToolGateway.Audit
import ToolGateway.Delivery.Basic
import ToolGateway.Failure
import ToolGateway.Time
import ToolGateway.Trust.Policy

/-!
# Rejected calls

Why a call that names a server and a tool was not carried out. The audit log learns the outcome
and the caller a failure; both follow from the cause alone, and neither carries the text of an
inner failure.
-/

namespace ToolGateway

/-- Why a call was rejected, in the order of the checks. -/
inductive Rejection where
  /-- The record of the tool server could not be read. -/
  | registryFailure (reason : String)
  | serverNotFound
  | serverDisabled
  /-- The breaker settings of the tool server are malformed. -/
  | invalidBreaker
  | circuitOpen
  | invalidBody
  | policyFailure (cause : Trust.LookupFailure)
  | trustDenied (tier : Trust.Tier)
  /-- No calls are left for so many nanoseconds. -/
  | rateLimited (resetAfter : Nat)
  /-- The tool server needs a credential and has none. -/
  | credentialMissing
  /-- No key is configured for the credential. -/
  | keyMissing
  | credentialUnreadable (cause : CredentialError)
  | delivery (cause : DeliveryFailure)
  deriving DecidableEq, Repr

namespace Rejection

/-- What the audit log learns. -/
def outcome : Rejection → Outcome
  | .registryFailure _ => .registryFailure
  | .serverNotFound => .serverNotFound
  | .serverDisabled => .serverDisabled
  | .invalidBreaker => .invalidBreaker
  | .circuitOpen => .circuitOpen
  | .invalidBody => .invalidBody
  | .policyFailure _ => .policyFailure
  | .trustDenied _ => .trustDenied
  | .rateLimited _ => .rateLimited
  | .credentialMissing => .credentialFailure
  | .keyMissing => .credentialFailure
  | .credentialUnreadable _ => .credentialFailure
  | .delivery (.invalidRequest _) => .invalidRequest
  | .delivery (.tooLarge _) => .answerTooLarge
  | .delivery (.transport _) => .deliveryFailure
  | .delivery .timeout => .deliveryFailure

/-- What the caller learns. -/
def failure : Rejection → Failure
  | .registryFailure _ => .internal "server store unavailable"
  | .serverNotFound => .notFound "server not found"
  | .serverDisabled => .invalid "server is disabled"
  | .invalidBreaker => .internal "invalid circuit breaker configuration"
  | .circuitOpen => .unavailable "upstream circuit is open"
  | .invalidBody => .invalid "invalid request body"
  | .policyFailure _ => .internal "trust classification failed"
  | .trustDenied _ => .denied "tool call denied by trust policy"
  | .rateLimited resetAfter => .rateLimited (Time.wholeSeconds resetAfter)
  | .credentialMissing => .internal "stored credential is missing"
  | .keyMissing => .internal "credential key is not configured"
  | .credentialUnreadable .notBase64 => .internal "stored credential is not valid base64"
  | .credentialUnreadable _ => .internal "stored credential could not be decrypted"
  | .delivery (.invalidRequest _) => .internal "upstream request could not be built"
  | .delivery (.tooLarge _) => .serverFailed "upstream response exceeds size limit"
  | .delivery (.transport _) => .serverFailed "upstream request failed"
  | .delivery .timeout => .serverFailed "upstream request failed"

/-- Whether the breaker has already taken note of the cause. -/
def recorded : Rejection → Bool
  | .delivery cause => cause.isEvidence
  | _ => false

end Rejection

end ToolGateway
