import ToolGateway.Config.Validity
import ToolGateway.Config.Written
import ToolGateway.FileError
import ToolGateway.Toml.Document

/-!
# Loading a configuration

The file is named on the command line or in the environment, or has its standard name. Its path
and its size are bounded, it must be UTF-8 and readable as a configuration, and only a valid one
is given back. Reading a file and looking up a variable are actions of any monad, so that loading
can be followed step by step as well as run.
-/

namespace ToolGateway.Config

/-- Why there is no configuration. -/
inductive LoadError where
  /-- The file cannot be read. -/
  | unreadable (cause : FileError)
  /-- The file holds no configuration. -/
  | malformed
  /-- The path of the file is at fault. -/
  | path (fault : PathFault)
  | fileTooLarge
  | notText
  /-- The configuration has a fault. -/
  | invalid (fault : Fault)
  deriving DecidableEq, Repr

/-- What is wrong, where it is not the form of the file. -/
def LoadError.reason : LoadError → String
  | .unreadable cause => cause.message
  | .malformed => "not a configuration"
  | .path .tooLong => "config path exceeds max length"
  | .path fault => "config " ++ fault.message
  | .fileTooLarge => "config file exceeds size limit"
  | .notText => "config file must be utf-8"
  | .invalid fault => fault.message

/-- The text of an error. -/
def LoadError.message (e : LoadError) : String :=
  match e with
  | .unreadable _ => "config io error: " ++ e.reason
  | .malformed => "config parse error: " ++ e.reason
  | _ => "invalid config: " ++ e.reason

/-- The variable that may name the file. -/
def pathVariable : String := "TOOLGATE_CONFIG"

/-- The standard name of the file. -/
def standardPath : String := "toolgate.toml"

/-- The greatest size of a file, in bytes. -/
def maxFileSize : Nat := mebibyte

/-- The path of the file: the given one, or that in the environment, or the standard one. -/
def pathOf {m : Type → Type} [Monad m] (given : Option String)
    (lookup : String → m (Option String)) : m String := do
  match given with
  | some path => return path
  | none => return (← lookup pathVariable).getD standardPath

/-- The configuration in a text, valid or not. -/
def ofText? (text : String) : Option Config := (Toml.parse? text).bind ofToml?

/-- The configuration in a file. -/
def ofBytes (bytes : Bytes) : Except LoadError Config :=
  if maxFileSize < bytes.length then .error .fileTooLarge
  else
    match Text.Utf8.decode? bytes with
    | none => .error .notText
    | some text =>
      match ofText? text with
      | none => .error .malformed
      | some c =>
        match c.faults with
        | [] => .ok c
        | fault :: _ => .error (.invalid fault)

/-- Loads a configuration; `read` gives the content of a file. -/
def load {m : Type → Type} [Monad m] (given : Option String)
    (lookup : String → m (Option String)) (read : String → m (Except FileError Bytes)) :
    m (Except LoadError Config) := do
  let path ← pathOf given lookup
  match lengthFaults path with
  | fault :: _ => return .error (.path fault)
  | [] =>
    match ← read path with
    | .error cause => return .error (.unreadable cause)
    | .ok bytes => return ofBytes bytes

/-! ## The key of the stored credentials -/

/-- Why there is no key. -/
inductive KeyError where
  /-- The variable holds something else. -/
  | invalid (variableName : String)
  /-- The variable is not set, but a credential needs the key. -/
  | missing (variableName : String)
  deriving DecidableEq, Repr

/-- The text of an error. -/
def KeyError.message : KeyError → String
  | .invalid variableName =>
    "invalid config: " ++ variableName ++ " must hold a base64-encoded 32-byte key"
  | .missing variableName =>
    "invalid config: credentials.key_env: " ++ variableName ++
      " is not set but an upstream requires a credential"

/-- The name of the variable that holds the key. -/
def keyName (c : Config) : String := Text.trim c.keyVariable

/-- The key, if its variable is set and not blank. -/
def key (c : Config) (lookup : String → Option String) :
    Except KeyError (Option CredentialKey) :=
  match (lookup c.keyName).filter fun value => Text.trim value ≠ "" with
  | some value =>
    match CredentialKey.ofBase64 value with
    | .ok key => .ok (some key)
    | .error _ => .error (.invalid c.keyName)
  | none => if c.needsKey then .error (.missing c.keyName) else .ok none

end ToolGateway.Config
