import ToolGateway.Command.Run

/-!
# Files and streams of the machine

The actions through which a command reaches files, the environment and its streams. An action that
fails gives the cause and throws nothing.
-/

namespace ToolGateway.Machine

/-- The number that the system has for an error. -/
def numberOf : IO.Error → UInt32
  | .alreadyExists _ number _ => number
  | .otherError number _ => number
  | .resourceBusy number _ => number
  | .resourceVanished number _ => number
  | .unsupportedOperation number _ => number
  | .hardwareFault number _ => number
  | .unsatisfiedConstraints number _ => number
  | .illegalOperation number _ => number
  | .protocolError number _ => number
  | .timeExpired number _ => number
  | .interrupted _ number _ => number
  | .noFileOrDirectory _ number _ => number
  | .invalidArgument _ number _ => number
  | .permissionDenied _ number _ => number
  | .resourceExhausted _ number _ => number
  | .inappropriateType _ number _ => number
  | .noSuchThing _ number _ => number
  | .unexpectedEof => 0
  | .userError _ => 0

/-- The cause of an error. Some parts of the system count errors downwards from zero. -/
def causeOf (e : IO.Error) : FileError :=
  let number := numberOf e
  .ofNumber (if number < 0x80000000 then number.toNat else (0 - number).toNat) (toString e)

/-- Runs an action; if it fails the cause is the result. -/
def attempt {α : Type} (action : IO α) : IO (Except FileError α) := do
  match ← action.toBaseIO with
  | .ok value => return .ok value
  | .error e => return .error (causeOf e)

/-- Runs an action of which only a failure is of interest. -/
def failureOf (action : IO Unit) : IO (Option FileError) := do
  match ← attempt action with
  | .ok () => return none
  | .error cause => return some cause

/-- The bytes of an array. -/
def bytesOf (bytes : ByteArray) : Bytes := bytes.toList

/-- The content of a file. -/
def contentOf (path : String) : IO (Except FileError Bytes) :=
  attempt do return bytesOf (← IO.FS.readBinFile path)

/-- The standard input, at most so many bytes of it. -/
def readInput (most : Nat) : IO (Except FileError Bytes) :=
  attempt do
    let input ← IO.getStdin
    let mut bytes := ByteArray.empty
    while bytes.size < most do
      let more ← input.read (most - bytes.size).toUSize
      if more.isEmpty then
        break
      bytes := bytes ++ more
    return bytesOf bytes

/-- Writes a line to the standard output. -/
def printLine (line : String) : IO (Option FileError) :=
  failureOf do
    let output ← IO.getStdout
    output.putStr (line ++ "\n")
    output.flush

/-- Writes a text to the standard error; if that fails there is nobody to tell. -/
def reportText (text : String) : IO Unit := do
  let _ ← failureOf do
    let output ← IO.getStderr
    output.putStr text
    output.flush

/-- The files that are open for appending, by path. -/
abbrev OpenFiles := IO.Ref (List (String × IO.FS.Handle))

/-- Opens a file for appending. -/
def openForAppending (files : OpenFiles) (path : String) : IO (Option FileError) :=
  failureOf do
    let handle ← IO.FS.Handle.mk path .append
    files.modify ((path, handle) :: ·)

/-- What a sink does with an audit record. -/
def writeRecord (files : OpenFiles) (entry : Audit.Entry) : Audit.Sink → IO (Option FileError)
  | .standardError => do
    reportText entry.line
    return none
  | .file path => do
    let some handle := (← files.get).lookup path | return none
    failureOf do
      handle.putStr entry.line
      handle.flush

/-- Hands an audit record to the sink of a server. -/
def record (files : OpenFiles) (sink : Option Audit.Sink) (entry : Audit.Entry) : IO Unit :=
  Audit.dispatch (sink.map fun sink entry => writeRecord files entry sink)
    (fun text => reportText (text ++ "\n")) entry

end ToolGateway.Machine
