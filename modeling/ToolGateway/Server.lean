import ToolGateway.Audit.Sink
import ToolGateway.Config.Load
import ToolGateway.Delivery.Send
import ToolGateway.Http.Service

/-!
# The server of a configuration

A valid configuration becomes a server: an address to listen at, a service, the gateway behind it
in its first state, and a place for audit records. Starting one checks the configuration, then
loads the key of the stored credentials, and only then opens the audit log, so that a start that
fails before has touched no file.

A server answers requests one after another. How calls leave it is a parameter, and so is how long
they take.
-/

namespace ToolGateway

/-- A server that can listen. -/
structure Server where
  address : SocketAddress
  service : Http.Service
  /-- The gateway at the beginning. -/
  session : Session
  /-- Where audit records go. -/
  sink : Option Audit.Sink
  /-- How calls go out. -/
  delivery : Config.Delivery

namespace Server

/-- Why a server does not start. -/
inductive StartError where
  /-- The configuration is not valid. -/
  | invalid (fault : Config.Fault)
  /-- There is no key for the stored credentials. -/
  | key (cause : Config.KeyError)
  /-- The audit log cannot be opened. -/
  | audit (cause : FileError)
  deriving DecidableEq, Repr

/-- The text of an error. -/
def StartError.message : StartError → String
  | .invalid fault => "config error: " ++ (Config.LoadError.invalid fault).message
  | .key cause => "config error: " ++ cause.message
  | .audit cause => "init error: audit sink: " ++ cause.message

/-- The text for an address that cannot be listened at. -/
def bindMessage (address : SocketAddress) (cause : FileError) : String :=
  "transport error: bind " ++ address.render ++ " failed: " ++ cause.message

/-- What a configuration fixes for its gateway. -/
def settings (c : Config) (key : Option CredentialKey) : Gateway.Settings :=
  ⟨c.rate.limit, c.rate.windowLength, key⟩

/-- The server of a configuration. -/
def ofConfig (c : Config) (address : SocketAddress) (key : Option CredentialKey)
    (sink : Option Audit.Sink) : Server where
  address
  service := ⟨c.listener.callers, c.listener.maxBody, settings c key⟩
  session := Session.new (Gateway.new c.registry c.policy)
  sink
  delivery := c.delivery

/-- The address of a valid configuration. -/
def addressOf (c : Config) : Except StartError SocketAddress :=
  match c.faults, c.listener.address? with
  | fault :: _, _ => .error (.invalid fault)
  | [], none => .error (.invalid .bind)
  | [], some address => .ok address

/-- The address and the key, if the configuration is valid and has the key that it needs. -/
def prepare (c : Config) (keyText : Option String) :
    Except StartError (SocketAddress × Option CredentialKey) := do
  let address ← addressOf c
  match c.key fun _ => keyText with
  | .error cause => .error (.key cause)
  | .ok key => .ok (address, key)

/-- Starts the server of a configuration; `tryOpen` opens a file for appending. -/
def start {m : Type → Type} [Monad m] (c : Config) (lookup : String → m (Option String))
    (tryOpen : String → m (Option FileError)) : m (Except StartError Server) := do
  match prepare c (← lookup c.keyName) with
  | .error e => return .error e
  | .ok (address, key) =>
    match ← Audit.Sink.start c.audit.sink c.audit.path tryOpen with
    | .error cause => return .error (.audit cause)
    | .ok sink => return .ok (ofConfig c address key sink)

/-- Whether only loopback callers get in. -/
def isLocalOnly (server : Server) : Bool := server.service.callers.mode = .localOnly

/-- Answers a request; `exchange` is the way to the tool servers. -/
def respond (server : Server) (exchange : Exchange) (session : Session) (r : Http.Request)
    (reading : Reading) : Http.Response × Effects × Session :=
  server.service.respond session r (exchange.send server.delivery.maxAnswer) reading

end Server

end ToolGateway
