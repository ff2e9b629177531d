import ToolGateway.Command.Invocation
import ToolGateway.Command.SecretInput
import ToolGateway.Server

/-!
# Running a command

A command reaches its surroundings through actions of any monad, so that it can be followed step by
step as well as run. It ends with an exit code: zero when all went well, one with a message on the
standard error when something did not, and two when the arguments cannot be read.

Log lines go to the standard error as well and only `serve` writes any.
-/

namespace ToolGateway.Command

variable {m : Type → Type} [Monad m]

/-- Something that listens. -/
structure Listening (m : Type → Type) where
  /-- Where it listens. -/
  address : SocketAddress
  /-- Serves until told to stop. -/
  awaitStop : m Unit
  /-- Finishes what has begun. -/
  finish : m Unit

/-- What a command can see and do. -/
structure Surroundings (m : Type → Type) where
  /-- The value of an environment variable, if it is a text. -/
  variableValue : String → m (Option String)
  /-- The content of a file. -/
  content : String → m (Except FileError Bytes)
  /-- The standard input, at most so many bytes of it. -/
  input : Nat → m (Except FileError Bytes)
  /-- Writes a line to the standard output. -/
  print : String → m (Option FileError)
  /-- Writes a line to the standard error. -/
  report : String → m Unit
  /-- Opens a file for appending. -/
  tryOpen : String → m (Option FileError)
  /-- Bytes that were never used as a nonce. -/
  freshNonce : m Bytes
  /-- Listens at the address of a server. -/
  listen : Server → m (Except FileError (Listening m))

/-! ## Errors -/

/-- Why a command fails. -/
inductive Error where
  /-- There is no configuration to serve. -/
  | load (cause : Config.LoadError)
  /-- The configuration to validate is none. -/
  | invalid (cause : Config.LoadError)
  | start (cause : Server.StartError)
  | listen (address : SocketAddress) (cause : FileError)
  | input (cause : FileError)
  | output (cause : FileError)
  | secret (cause : SecretError)
  | sealing (cause : SealError)
  deriving DecidableEq, Repr

/-- The text of an error. -/
def Error.message : Error → String
  | .load cause => "failed to load config: " ++ cause.message
  | .invalid cause => "config invalid: " ++ cause.message
  | .start cause => "gateway init failed: " ++ cause.message
  | .listen address cause => "gateway failed: " ++ Server.bindMessage address cause
  | .input cause => "failed to read secret from stdin: " ++ cause.message
  | .output cause => "failed to write to stdout: " ++ cause.message
  | .secret cause => cause.message
  | .sealing cause => cause.message

/-- An action with a cause of failure as an action of a command. -/
def orFail {α ε : Type} (wrap : ε → Error) (action : m (Except ε α)) : ExceptT Error m α :=
  ExceptT.mk (Except.mapError wrap <$> action)

/-- Prints a line, or fails. -/
def Surroundings.printLine (s : Surroundings m) (line : String) : ExceptT Error m Unit :=
  orFail .output ((fun failure => failure.elim (.ok ()) .error) <$> s.print line)

/-! ## Serving -/

/-- The variable that holds the filter of log lines. -/
def filterVariable : String := "RUST_LOG"

/-- The origin of the records of a command. -/
def commandOrigin : String := "toolgate"

/-- The origin of the records of a server. -/
def serverOrigin : String := "toolgate_gateway::server"

/-- Only loopback callers get in. -/
def localOnlyRecord : Log.Record :=
  ⟨.warning, serverOrigin,
    "gateway running in local-only mode; only loopback callers are accepted", []⟩

/-- A server is about to listen. -/
def startingRecord (address : SocketAddress) (servers : Nat) : Log.Record :=
  ⟨.information, commandOrigin, "starting gateway",
    [("bind", .string address.render), ("upstreams", .ofNat servers)]⟩

/-- A server listens. -/
def listeningRecord (address : SocketAddress) : Log.Record :=
  ⟨.information, serverOrigin, "gateway listening", [("addr", .string address.render)]⟩

/-- A server was told to stop. -/
def stoppingRecord : Log.Record :=
  ⟨.information, commandOrigin, "shutdown signal received", []⟩

/-- A server has stopped. -/
def stoppedRecord : Log.Record := ⟨.information, commandOrigin, "gateway stopped", []⟩

/-- Writes a record, if the filter lets it pass. -/
def Surroundings.log (s : Surroundings m) (filter : Log.Filter) (format : Log.Format)
    (r : Log.Record) : m Unit :=
  if filter.admits r then s.report (r.line format) else pure ()

/-- Serves until told to stop. -/
def serve (s : Surroundings m) (format : Log.Format) (given : Option String) :
    ExceptT Error m Unit := do
  let filter := Log.Filter.ofVariable (← s.variableValue filterVariable)
  let config ← orFail .load (Config.load given s.variableValue s.content)
  let server ← orFail .start (Server.start config s.variableValue s.tryOpen)
  if server.isLocalOnly then
    s.log filter format localOnlyRecord
  s.log filter format (startingRecord server.address config.servers.length)
  let listening ← orFail (.listen server.address) (s.listen server)
  s.log filter format (listeningRecord listening.address)
  listening.awaitStop
  s.log filter format stoppingRecord
  listening.finish
  s.log filter format stoppedRecord

/-! ## Validating -/

/-- What is said about a valid configuration. -/
def summary (c : Config) : String :=
  "config ok: " ++ Nat.repr c.servers.length ++ " upstream(s), " ++
    Nat.repr (c.servers.filter (·.enabled)).length ++ " enabled, bind " ++ c.listener.bind

/-- Tells whether a configuration is valid. -/
def validate (s : Surroundings m) (given : Option String) : ExceptT Error m Unit := do
  let config ← orFail .invalid (Config.load given s.variableValue s.content)
  s.printLine (summary config)

/-! ## Encrypting -/

/-- Seals the secret on the standard input. -/
def encrypt (s : Surroundings m) (keyVariable : String) : ExceptT Error m Unit := do
  let value ← s.variableValue keyVariable
  let bytes ← orFail .input (s.input (maxSecretLength + 1))
  let secret ← orFail .secret (pure (secretOfInput bytes))
  let stored ← orFail .sealing (pure (sealUnder keyVariable value (← s.freshNonce) secret))
  s.printLine stored

/-! ## Commands -/

/-- Carries out a task. -/
def carryOut (s : Surroundings m) (format : Log.Format) : Task → ExceptT Error m Unit
  | .serve config => serve s format config
  | .validate config => validate s config
  | .encrypt keyVariable => encrypt s keyVariable

/-- The line that tells the version. -/
def versionLine : String := "toolgate 0.1.0"

/-- How a command is called. -/
def usage : String :=
  "Usage: toolgate [--log-format text|json] <command>\n\n" ++
  "Commands:\n" ++
  "  serve [--config PATH]                 serve until told to stop\n" ++
  "  config validate [--config PATH]       tell whether a configuration is valid\n" ++
  "  credential encrypt [--key-env NAME]   seal the secret on the standard input\n\n" ++
  "Options:\n" ++
  "  -h, --help      print this\n" ++
  "  -V, --version   print the version"

/-- Does what the arguments ask for and gives the exit code. -/
def run (s : Surroundings m) (arguments : List String) : m UInt32 := do
  match Invocation.ofArguments arguments with
  | .help =>
    let _ ← s.print usage
    return 0
  | .version =>
    let _ ← s.print versionLine
    return 0
  | .misuse =>
    s.report usage
    return 2
  | .run format task =>
    match ← (carryOut s format task).run with
    | .ok () => return 0
    | .error e =>
      s.report e.message
      return 1

end ToolGateway.Command
