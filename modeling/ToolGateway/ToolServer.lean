import ToolGateway.Json.Record

/-!
# Tool servers

A tool server is a record with a unique label. The registry keeps the records by label; a record
that comes later replaces an earlier one of its label. The breaker settings stay text until a call
needs them, and the credential stays sealed.
-/

namespace ToolGateway

/-- How a credential is presented to a tool server. -/
inductive Scheme where
  /-- No credential is sent. -/
  | none
  /-- The secret is sent as it is. -/
  | bearer
  /-- The secret, a name and a password with a colon between, is sent in Base64. -/
  | basic
  deriving DecidableEq, Repr

/-- The name of a scheme. -/
def Scheme.name : Scheme → String
  | .none => "none"
  | .bearer => "bearer"
  | .basic => "basic"

/-- All schemes by name. -/
def Scheme.named : List (String × Scheme) :=
  [Scheme.none, .bearer, .basic].map fun s => (s.name, s)

/-- Reads a scheme. -/
def Scheme.ofDocument? (depth : Nat) : Json.Document → Option Scheme :=
  Json.Document.choice? depth named

/-- The JSON form of a scheme. -/
def Scheme.toJson (s : Scheme) : Json := .string s.name

/-- The record of a tool server. -/
structure ToolServer where
  label : String
  /-- The URL below which its tools are. -/
  endpoint : String
  scheme : Scheme
  /-- The sealed credential, in Base64. -/
  credential : Option String
  enabled : Bool
  /-- The breaker settings, as JSON text. -/
  breaker : Option String
  deriving DecidableEq, Repr

namespace ToolServer

/-- The fields of a written record. -/
def fieldNames : List String :=
  ["label", "endpoint", "auth_type", "auth_credential", "is_enabled", "circuit_breaker_config"]

/-- Reads a record. -/
def ofDocument? (document : Json.Document) : Option ToolServer := do
  let r ← document.record? Json.maxDepth fieldNames
  return {
    label := ← r.required "label" (·.string?)
    endpoint := ← r.required "endpoint" (·.string?)
    scheme := ← r.withDefault "auth_type" .none (Scheme.ofDocument? (Json.maxDepth - 1))
    credential := ← r.withDefault "auth_credential" none (Json.Document.orNull (·.string?))
    enabled := ← r.required "is_enabled" (·.bool?)
    breaker := ← r.withDefault "circuit_breaker_config" none (Json.Document.orNull (·.string?)) }

/-- The JSON form of a record. -/
def toJson (s : ToolServer) : Json :=
  .object [("label", .string s.label), ("endpoint", .string s.endpoint),
    ("auth_type", s.scheme.toJson), ("auth_credential", .ofText? s.credential),
    ("is_enabled", .bool s.enabled), ("circuit_breaker_config", .ofText? s.breaker)]

end ToolServer

/-- The records of all tool servers, by label. -/
abbrev Registry := Table ToolServer

namespace Registry

/-- Adds a record, which replaces an earlier one of its label. -/
def register (r : Registry) (server : ToolServer) : Registry := r.insert server.label server

/-- The registry of a list of records. -/
def ofServers (servers : List ToolServer) : Registry := servers.foldl register []

end Registry

end ToolGateway
