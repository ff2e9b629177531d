import ToolGateway.Json.Printer
import ToolGateway.Json.Record

/-!
# Audit records

Each call that got as far as a tool server's label and a tool's name is recorded once, with its
caller, its outcome and the time it took. A record is one line of JSON: control characters are
escaped in strings, so a line feed ends a record and stands nowhere else.
-/

namespace ToolGateway

/-- How a call went. -/
inductive Outcome where
  /-- The tool server answered below 500. -/
  | success
  /-- The tool server answered 500 or above. -/
  | serverFailure
  /-- The tool server could not be reached or did not answer in time. -/
  | deliveryFailure
  /-- The outgoing request could not be built. -/
  | invalidRequest
  /-- The answer was larger than allowed. -/
  | answerTooLarge
  /-- The breaker was open. -/
  | circuitOpen
  /-- The policy did not say `auto`. -/
  | trustDenied
  /-- The caller had no calls left. -/
  | rateLimited
  /-- No tool server has the label. -/
  | serverNotFound
  /-- The tool server is switched off. -/
  | serverDisabled
  /-- The breaker settings are malformed. -/
  | invalidBreaker
  /-- The body is malformed. -/
  | invalidBody
  /-- The policy could not be read. -/
  | policyFailure
  /-- The credential could not be opened. -/
  | credentialFailure
  /-- The tool server's record could not be read. -/
  | registryFailure
  deriving DecidableEq, Repr

/-- The name of an outcome. -/
def Outcome.name : Outcome → String
  | .success => "success"
  | .serverFailure => "upstream_5xx"
  | .deliveryFailure => "upstream_error"
  | .invalidRequest => "invalid_upstream_request"
  | .answerTooLarge => "response_too_large"
  | .circuitOpen => "circuit_open"
  | .trustDenied => "trust_denied"
  | .rateLimited => "rate_limited"
  | .serverNotFound => "server_not_found"
  | .serverDisabled => "server_disabled"
  | .invalidBreaker => "invalid_breaker_config"
  | .invalidBody => "invalid_body"
  | .policyFailure => "classifier_error"
  | .credentialFailure => "credential_error"
  | .registryFailure => "store_error"

/-- All outcomes by name. -/
def Outcome.named : List (String × Outcome) :=
  [Outcome.success, .serverFailure, .deliveryFailure, .invalidRequest, .answerTooLarge,
    .circuitOpen, .trustDenied, .rateLimited, .serverNotFound, .serverDisabled, .invalidBreaker,
    .invalidBody, .policyFailure, .credentialFailure, .registryFailure].map fun o => (o.name, o)

namespace Audit

/-- How a call went, how long it took and what the tool server answered. -/
structure Details where
  outcome : Outcome
  /-- Milliseconds. -/
  latency : Nat
  /-- The status of the tool server's answer, if it gave one. -/
  status : Option Nat
  deriving DecidableEq, Repr

/-- One record. -/
structure Entry where
  actor : String
  action : String
  resource : String
  details : Details
  /-- Milliseconds since 1970. -/
  timestamp : Nat
  deriving DecidableEq, Repr

/-- The action of every recorded call. -/
def toolCallAction : String := "gateway_tool_call"

/-- The record of a tool call. -/
def Entry.toolCall (caller label tool : String) (details : Details) (timestamp : Nat) : Entry :=
  ⟨caller, toolCallAction, label ++ "/" ++ tool, details, timestamp⟩

/-! ## JSON form -/

/-- The JSON form of details; a status that is not there is left out. -/
def Details.toJson (d : Details) : Json :=
  .object ([("outcome", .string d.outcome.name), ("latency_ms", .ofNat d.latency)] ++
    (d.status.map fun status => ("upstream_status", Json.ofNat status)).toList)

/-- The JSON form of a record. -/
def Entry.toJson (e : Entry) : Json :=
  .object [("actor", .string e.actor), ("action", .string e.action),
    ("resource_id", .string e.resource), ("details", e.details.toJson),
    ("timestamp_ms", .ofNat e.timestamp)]

/-- Reads an outcome. -/
def outcome? (depth : Nat) : Json.Document → Option Outcome :=
  Json.Document.choice? depth Outcome.named

/-- Reads details. -/
def Details.ofDocument? (depth : Nat) (document : Json.Document) : Option Details := do
  let r ← document.record? depth ["outcome", "latency_ms", "upstream_status"]
  return ⟨← r.required "outcome" (outcome? (depth - 1)), ← r.required "latency_ms" (·.word? 64),
    ← r.optional "upstream_status" (Json.Document.orNull (·.word? 16))⟩

/-- Reads a record. -/
def Entry.ofDocument? (document : Json.Document) : Option Entry := do
  let r ← document.record? Json.maxDepth ["actor", "action", "resource_id", "details", "timestamp_ms"]
  return ⟨← r.required "actor" (·.string?), ← r.required "action" (·.string?),
    ← r.required "resource_id" (·.string?),
    ← r.required "details" (Details.ofDocument? (Json.maxDepth - 1)),
    ← r.required "timestamp_ms" (·.word? 128)⟩

/-- Reads a record from a text. -/
def Entry.parse? (bytes : Bytes) : Option Entry :=
  (Json.Document.parse? bytes).bind Entry.ofDocument?

/-- The line of a record, with its line feed. -/
def Entry.line (e : Entry) : String := e.toJson.render ++ "\n"

end Audit

end ToolGateway
