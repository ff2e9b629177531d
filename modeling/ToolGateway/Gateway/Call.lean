import ToolGateway.Audit
import ToolGateway.Failure
import ToolGateway.Json.Record
import ToolGateway.Text.Blank

/-!
# Calls to the gateway

A call names a tool server and a tool and carries a body. Blanks around the two names do not
matter, and a call without either is turned away before anything else. The body is a JSON record
of the arguments, which are passed on as they are, and of the agent and workspace that the policy
is asked about.
-/

namespace ToolGateway

/-- A call as it arrives. -/
structure Request where
  /-- The id of the caller. -/
  caller : String
  label : String
  tool : String
  body : Bytes
  deriving DecidableEq, Repr

/-- A call whose names are trimmed and not empty. -/
structure Call where
  caller : String
  label : String
  tool : String
  body : Bytes
  label_ne : label ≠ ""
  tool_ne : tool ≠ ""
  deriving DecidableEq

/-- Trims the names of a call. -/
def Request.toCall (r : Request) : Except Failure Call :=
  if hl : Text.trim r.label = "" then .error (.invalid "server label is required")
  else if ht : Text.trim r.tool = "" then .error (.invalid "tool name is required")
  else .ok ⟨r.caller, Text.trim r.label, Text.trim r.tool, r.body, hl, ht⟩

/-- The body of a call. -/
structure CallBody where
  arguments : Json
  workspace : Option String
  agent : Option String

namespace CallBody

/-- The fields of a written body. -/
def fieldNames : List String := ["arguments", "workspace_id", "agent_id"]

/-- Reads a body from a document. -/
def ofDocument? (document : Json.Document) : Option CallBody := do
  let r ← document.record? Json.maxDepth fieldNames
  return ⟨← r.withDefault "arguments" .null (·.toJson? (Json.maxDepth - 1)),
    ← r.withDefault "workspace_id" none (Json.Document.orNull (·.string?)),
    ← r.withDefault "agent_id" none (Json.Document.orNull (·.string?))⟩

/-- Reads a body. -/
def parse? (bytes : Bytes) : Option CallBody := (Json.Document.parse? bytes).bind ofDocument?

end CallBody

/-- What was measured about a call: its duration and the time of its end, in milliseconds. -/
structure Reading where
  latency : Nat
  timestamp : Nat
  deriving DecidableEq, Repr

/-- What a successful call gives back, with the limit of the caller and what is left of it. -/
structure Output where
  status : Nat
  body : Json
  latency : Nat
  limit : Nat
  remaining : Nat

/-- The body of the answer to a successful call. -/
def Output.toJson (o : Output) : Json :=
  .object [("status_code", .ofNat o.status), ("body", o.body), ("latency_ms", .ofNat o.latency)]

end ToolGateway
