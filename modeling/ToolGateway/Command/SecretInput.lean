import ToolGateway.Credential

/-!
# Secrets that are typed in

A secret is read as text. One line end behind it does not belong to it, whether a line feed alone
or one behind a carriage return; all other characters do. What is read, line end included, has a
greatest length.

A secret is sealed under the key in an environment variable, as the gateway opens it.
-/

namespace ToolGateway.Command

/-- Why there is no secret. -/
inductive SecretError where
  | tooLong
  | notText
  | empty
  deriving DecidableEq, Repr

/-- The greatest length of a secret with its line end, in bytes. -/
def maxSecretLength : Nat := 8192

/-- The text of an error. -/
def SecretError.message : SecretError → String
  | .tooLong => "secret exceeds " ++ Nat.repr maxSecretLength ++ " bytes"
  | .notText => "secret must be utf-8"
  | .empty => "secret is empty"

/-- A text without the line end behind it. -/
def withoutLineEnd : List Char → List Char
  | [] => []
  | ['\n'] => []
  | ['\r', '\n'] => []
  | c :: cs => c :: withoutLineEnd cs

/-- The secret in what was read. -/
def secretOfInput (bytes : Bytes) : Except SecretError Secret :=
  if maxSecretLength < bytes.length then .error .tooLong
  else
    match Text.Utf8.decode? bytes with
    | none => .error .notText
    | some text =>
      match withoutLineEnd text.toList with
      | [] => .error .empty
      | cs => .ok ⟨String.ofList cs⟩

/-- Why a secret is not sealed. -/
inductive SealError where
  /-- The variable of the key is not set, or blank. -/
  | keyMissing (variableName : String)
  /-- The variable holds something else. -/
  | keyInvalid (variableName : String)
  deriving DecidableEq, Repr

/-- The text of an error. -/
def SealError.message : SealError → String
  | .keyMissing variableName => variableName ++ " is not set"
  | .keyInvalid variableName => variableName ++ " must hold a base64-encoded 32-byte key"

/-- The key in the value of a variable. -/
def keyOfVariable (variableName : String) (value : Option String) :
    Except SealError CredentialKey :=
  match value.filter fun value => Text.trim value ≠ "" with
  | none => .error (.keyMissing variableName)
  | some value =>
    match CredentialKey.ofBase64 value with
    | .ok key => .ok key
    | .error _ => .error (.keyInvalid variableName)

/-- Seals a secret under the key in a variable. -/
def sealUnder (variableName : String) (value : Option String) (nonce : Bytes) (secret : Secret) :
    Except SealError String :=
  (keyOfVariable variableName value).map fun key => key.sealSecret nonce secret

end ToolGateway.Command
