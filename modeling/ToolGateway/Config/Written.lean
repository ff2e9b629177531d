import ToolGateway.Config.Basic
import ToolGateway.Toml.Record

/-!
# Written configuration

The names of a configuration file. Names that are not listed here mean nothing. Each part may be
left out, and so may each field that has a standard value.
-/

namespace ToolGateway

/-- The modes by name. -/
def CallerMode.named : List (String × CallerMode) :=
  [("local_only", .localOnly), ("bearer_token", .bearerToken)]

/-- The sinks by name. -/
def Audit.SinkKind.named : List (String × Audit.SinkKind) :=
  [("stderr", .standardError), ("file", .file), ("none", .none)]

namespace Config

/-- Reads a caller. -/
def callerOf? (v : Toml) : Option Caller := do
  let r ← v.record? ["id", "token"]
  return ⟨← r.required "id" (·.text?), ← r.required "token" (·.text?)⟩

/-- Reads who may call. -/
def callersOf? (v : Toml) : Option Callers := do
  let r ← v.record? ["mode", "callers"]
  return ⟨← r.withDefault "mode" .localOnly (Toml.choice? CallerMode.named),
    ← r.withDefault "callers" [] (Toml.list? callerOf?)⟩

/-- Reads a listener. -/
def Listener.ofToml? (v : Toml) : Option Listener := do
  let r ← v.record? ["bind", "max_body_bytes", "auth"]
  return ⟨← r.withDefault "bind" Listener.standard.bind (·.text?),
    ← r.withDefault "max_body_bytes" Listener.standard.maxBody (·.word? 64),
    ← r.withDefault "auth" Callers.localOnly callersOf?⟩

/-- Reads the variable of the key. -/
def keyVariableOf? (v : Toml) : Option String := do
  let r ← v.record? ["key_env"]
  r.withDefault "key_env" standardKeyVariable (·.text?)

/-- Reads a rate. -/
def Rate.ofToml? (v : Toml) : Option Rate := do
  let r ← v.record? ["max_requests", "window_ms"]
  return ⟨← r.withDefault "max_requests" Rate.standard.limit (·.word? 32),
    ← r.withDefault "window_ms" Rate.standard.window (·.word? 64)⟩

/-- Reads how calls go out. -/
def Delivery.ofToml? (v : Toml) : Option Delivery := do
  let r ← v.record? ["connect_timeout_ms", "request_timeout_ms", "max_response_bytes"]
  return ⟨← r.withDefault "connect_timeout_ms" Delivery.standard.connectTimeout (·.word? 64),
    ← r.withDefault "request_timeout_ms" Delivery.standard.callTimeout (·.word? 64),
    ← r.withDefault "max_response_bytes" Delivery.standard.maxAnswer (·.word? 64)⟩

/-- Reads where audit records go. -/
def AuditLog.ofToml? (v : Toml) : Option AuditLog := do
  let r ← v.record? ["sink", "path"]
  return ⟨← r.withDefault "sink" AuditLog.standard.sink (Toml.choice? Audit.SinkKind.named),
    ← r.withDefault "path" none fun v => v.text?.map some⟩

/-- Reads a tool server. -/
def serverOf? (v : Toml) : Option ToolServer := do
  let r ← v.record?
    ["label", "endpoint", "auth_type", "auth_credential", "enabled", "circuit_breaker"]
  return {
    label := ← r.required "label" (·.text?)
    endpoint := ← r.required "endpoint" (·.text?)
    scheme := ← r.withDefault "auth_type" .none (Toml.choice? Scheme.named)
    credential := ← r.withDefault "auth_credential" none fun v => v.text?.map some
    enabled := ← r.withDefault "enabled" true (·.boolean?)
    breaker := ← r.withDefault "circuit_breaker" none fun v => v.text?.map some }

/-- Reads a tier. -/
def tierOf? : Toml → Option Trust.Tier := Toml.choice? Trust.Tier.named

/-- Reads a default; without a priority it has the priority zero. -/
def defaultOf? (v : Toml) : Option Trust.Default := do
  let r ← v.record? ["pattern", "tier", "priority"]
  return ⟨← r.required "pattern" (·.text?), ← r.required "tier" tierOf?,
    ← r.withDefault "priority" 0 (·.between? Trust.minPriority Trust.maxPriority)⟩

/-- Reads a rule with its workspace. -/
def ruleOf? (v : Toml) : Option (String × Trust.Rule) := do
  let r ← v.record? ["workspace_id", "pattern", "tier"]
  return (← r.required "workspace_id" (·.text?),
    ⟨← r.required "pattern" (·.text?), ← r.required "tier" tierOf?⟩)

/-- Reads an override. -/
def overrideOf? (v : Toml) : Option Trust.Override := do
  let r ← v.record? ["agent_id", "tool_name", "tier"]
  return ⟨← r.required "agent_id" (·.text?), ← r.required "tool_name" (·.text?),
    ← r.required "tier" tierOf?⟩

/-- Reads the rows of the policy. -/
def Rows.ofToml? (v : Toml) : Option Rows := do
  let r ← v.record? ["defaults", "rules", "agent_overrides"]
  return ⟨← r.withDefault "defaults" [] (Toml.list? defaultOf?),
    ← r.withDefault "rules" [] (Toml.list? ruleOf?),
    ← r.withDefault "agent_overrides" [] (Toml.list? overrideOf?)⟩

/-- Reads a configuration. -/
def ofToml? (v : Toml) : Option Config := do
  let r ← v.record?
    ["server", "credentials", "rate_limit", "forwarder", "audit", "upstreams", "trust"]
  return {
    listener := ← r.withDefault "server" .standard Listener.ofToml?
    keyVariable := ← r.withDefault "credentials" standardKeyVariable keyVariableOf?
    rate := ← r.withDefault "rate_limit" .standard Rate.ofToml?
    delivery := ← r.withDefault "forwarder" .standard Delivery.ofToml?
    audit := ← r.withDefault "audit" .standard AuditLog.ofToml?
    servers := ← r.withDefault "upstreams" [] (Toml.list? serverOf?)
    trust := ← r.withDefault "trust" .none Rows.ofToml? }

end Config

end ToolGateway
