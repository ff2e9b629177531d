import ToolGateway.Json.Printer

/-!
# Failures as callers see them

A failed call is answered with a status, a code that does not change and a general message. The
message names no server, no policy row and no cause inside the gateway.
-/

namespace ToolGateway

/-- What a caller is told about a failed call. -/
inductive Failure where
  /-- The request is malformed. -/
  | invalid (message : String)
  /-- What was asked for is not there. -/
  | notFound (message : String)
  /-- The policy does not allow the call. -/
  | denied (message : String)
  /-- The tool server is kept from calls for now. -/
  | unavailable (message : String)
  /-- The caller has no calls left for so many seconds. -/
  | rateLimited (seconds : Nat)
  /-- The tool server did not answer as it should. -/
  | serverFailed (message : String)
  /-- The caller is not known. -/
  | unauthenticated (message : String)
  /-- The body is larger than allowed. -/
  | tooLarge
  /-- The gateway itself failed. -/
  | internal (message : String)
  deriving DecidableEq, Repr

namespace Failure

/-- The HTTP status of a failure. -/
def status : Failure → Nat
  | .invalid _ => 400
  | .notFound _ => 404
  | .denied _ => 403
  | .unavailable _ => 503
  | .rateLimited _ => 429
  | .serverFailed _ => 502
  | .unauthenticated _ => 401
  | .tooLarge => 413
  | .internal _ => 500

/-- The code of a failure. -/
def code : Failure → String
  | .invalid _ => "INVALID_REQUEST"
  | .notFound _ => "NOT_FOUND"
  | .denied _ => "TRUST_DENIED"
  | .unavailable _ => "CIRCUIT_OPEN"
  | .rateLimited _ => "RATE_LIMITED"
  | .serverFailed _ => "UPSTREAM_ERROR"
  | .unauthenticated _ => "UNAUTHENTICATED"
  | .tooLarge => "PAYLOAD_TOO_LARGE"
  | .internal _ => "INTERNAL_ERROR"

/-- The message for the caller. -/
def message : Failure → String
  | .invalid m => m
  | .notFound m => m
  | .denied m => m
  | .unavailable m => m
  | .rateLimited _ => "rate limit exceeded"
  | .serverFailed m => m
  | .unauthenticated m => m
  | .tooLarge => "request body exceeds size limit"
  | .internal m => m

/-- How a failure is shown in a log. -/
def shown : Failure → String
  | .invalid m => "invalid request: " ++ m
  | .notFound m => "not found: " ++ m
  | .denied m => "denied: " ++ m
  | .unavailable m => "unavailable: " ++ m
  | .rateLimited seconds => "rate limited; retry after " ++ Nat.repr seconds ++ "s"
  | .serverFailed m => "upstream failure: " ++ m
  | .unauthenticated m => "unauthenticated: " ++ m
  | .tooLarge => "payload too large"
  | .internal m => "internal error: " ++ m

/-- The body of the answer to a failed call. -/
def toJson (f : Failure) : Json :=
  .object [("success", .bool false),
    ("error", .object [("code", .string f.code), ("message", .string f.message)])]

end Failure

end ToolGateway
