import ToolGateway.Audit.Sink
import ToolGateway.Callers
import ToolGateway.Limiter
import ToolGateway.Time
import ToolGateway.ToolServer
import ToolGateway.Trust.Policy

/-!
# Configuration

Everything that is fixed when a gateway starts, as it is written: texts are not trimmed and bounds
are not checked here. A part that is not written has its standard value.
-/

namespace ToolGateway

/-- How requests come in. -/
structure Config.Listener where
  /-- The address to listen at. -/
  bind : String
  /-- Bodies of more bytes are refused. -/
  maxBody : Nat
  callers : Callers
  deriving DecidableEq, Repr

/-- How many calls a caller has. -/
structure Config.Rate where
  /-- Calls of one caller to one tool in one window. -/
  limit : Nat
  /-- The length of a window, in milliseconds. -/
  window : Nat
  deriving DecidableEq, Repr

/-- How calls go out. -/
structure Config.Delivery where
  /-- The time to connect, in milliseconds. -/
  connectTimeout : Nat
  /-- The time for a whole call, in milliseconds. -/
  callTimeout : Nat
  /-- Answers of more bytes are refused. -/
  maxAnswer : Nat
  deriving DecidableEq, Repr

/-- Where audit records go. -/
structure Config.AuditLog where
  sink : Audit.SinkKind
  path : Option String
  deriving DecidableEq, Repr

/-- The rows of the policy, in the order in which they are written. -/
structure Config.Rows where
  defaults : List Trust.Default
  /-- Each rule with its workspace. -/
  rules : List (String × Trust.Rule)
  overrides : List Trust.Override
  deriving DecidableEq, Repr

/-- A configuration. -/
structure Config where
  listener : Config.Listener
  /-- The environment variable that holds the key of the stored credentials. -/
  keyVariable : String
  rate : Config.Rate
  delivery : Config.Delivery
  audit : Config.AuditLog
  servers : List ToolServer
  trust : Config.Rows
  deriving DecidableEq, Repr

namespace Config

/-- One mebibyte, in bytes. -/
def mebibyte : Nat := 1024 * 1024

/-- The standard listener: local callers on the machine itself. -/
def Listener.standard : Listener := ⟨"127.0.0.1:8088", mebibyte, Callers.localOnly⟩

/-- The standard variable of the key. -/
def standardKeyVariable : String := "TOOLGATE_CREDENTIAL_KEY"

/-- The standard rate. -/
def Rate.standard : Rate := ⟨Limiter.defaultLimit, Limiter.defaultWindow / Time.millisecond⟩

/-- The standard delivery. -/
def Delivery.standard : Delivery := ⟨2000, 30000, 4 * mebibyte⟩

/-- The standard audit log. -/
def AuditLog.standard : AuditLog := ⟨.standardError, none⟩

/-- No rows. -/
def Rows.none : Rows := ⟨[], [], []⟩

/-- The configuration in which nothing is written. -/
def standard : Config :=
  ⟨.standard, standardKeyVariable, .standard, .standard, .standard, [], .none⟩

/-- The length of a window, in nanoseconds. -/
def Rate.windowLength (r : Rate) : Nat := r.window * Time.millisecond

/-- Whether some tool server needs a credential. -/
def needsKey (c : Config) : Bool := c.servers.any (·.scheme ≠ .none)

/-! ## What a gateway is built from -/

/-- The record of a tool server as the gateway knows it: its endpoint has no blanks around. -/
def registered (server : ToolServer) : ToolServer :=
  { server with endpoint := Text.trim server.endpoint }

/-- The registry of the tool servers. -/
def registry (c : Config) : Registry := Registry.ofServers (c.servers.map registered)

/-- The policy of the rows. -/
def policy (c : Config) : Trust.Policy :=
  let p := c.trust.overrides.foldl Trust.Policy.addOverride .empty
  let p := c.trust.rules.foldl (fun p r => p.addRule r.1 r.2) p
  c.trust.defaults.foldl Trust.Policy.addDefault p

/-- The address to listen at. -/
def Listener.address? (l : Listener) : Option SocketAddress := SocketAddress.parse? (Text.trim l.bind)

end Config

end ToolGateway
