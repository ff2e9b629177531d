import ToolGateway.Audit
import ToolGateway.FileError

/-!
# Where audit records go

Records go to standard error, to a file to which lines are appended, or nowhere. Only the file
needs a path, and it is opened once. Opening is an action of any monad, so that it can be followed
step by step as well as run.
-/

namespace ToolGateway.Audit

/-- Where records are to go. -/
inductive SinkKind where
  | standardError
  | file
  | none
  deriving DecidableEq, Repr

/-- Where records go. -/
inductive Sink where
  | standardError
  | file (path : String)
  deriving DecidableEq, Repr

/-- The failure of a file sink without a path. -/
def missingPath : FileError := .refused "audit.path is required for the file sink"

/-- The sink of a kind. -/
def Sink.ofKind (kind : SinkKind) (path : Option String) : Except FileError (Option Sink) :=
  match kind, path with
  | .standardError, _ => .ok (some .standardError)
  | .none, _ => .ok none
  | .file, none => .error missingPath
  | .file, some path => .ok (some (.file path))

/-- Opens a sink; `tryOpen` opens a file for appending, and tells what went wrong. -/
def Sink.start {m : Type → Type} [Monad m] (kind : SinkKind) (path : Option String)
    (tryOpen : String → m (Option FileError)) : m (Except FileError (Option Sink)) := do
  match Sink.ofKind kind path with
  | .ok (some (.file path)) =>
    match ← tryOpen path with
    | some failure => return .error failure
    | none => return .ok (some (.file path))
  | other => return other

/-- The text of a failure to write a record. -/
def writeFailure (failure : FileError) : String := "audit write failed: " ++ failure.message

/-- Hands a record to a sink, if there is one; `write` is what the sink does with it. A failure to
write is reported and has no other consequence. -/
def dispatch {m : Type → Type} [Monad m] (write : Option (Entry → m (Option FileError)))
    (report : String → m Unit) (entry : Entry) : m Unit :=
  match write with
  | none => pure ()
  | some write => do
    if let some failure ← write entry then
      report (writeFailure failure)

end ToolGateway.Audit
