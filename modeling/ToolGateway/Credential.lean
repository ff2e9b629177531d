import ToolGateway.Crypto.Aes
import ToolGateway.Crypto.Gcm
import ToolGateway.Text.Base64
import ToolGateway.Text.Blank
import ToolGateway.Text.Utf8

/-!
# Sealed credentials

A credential is kept as the Base64 text of a nonce of twelve bytes followed by the encrypted
secret and its tag. Opening it decodes the text, checks the tag and reads the secret as UTF-8; the
first of these that fails gives the error. Blanks around a stored text or a written key do not
matter.

Sealing takes the nonce as an argument, so it is a function.
-/

namespace ToolGateway

/-- Why a credential could not be sealed or opened. -/
inductive CredentialError where
  /-- The key has not thirty-two bytes, or its text is no Base64. -/
  | invalidKey
  /-- The stored text is no Base64. -/
  | notBase64
  /-- The stored bytes are too short or do not carry the tag that belongs to them. -/
  | notAuthentic
  /-- The secret is not well-formed UTF-8. -/
  | notText
  deriving DecidableEq, Repr

/-- The text of an error. -/
def CredentialError.message : CredentialError → String
  | .invalidKey => "credential key must be 32 bytes"
  | .notBase64 => "credential is not valid base64"
  | .notAuthentic => "credential decryption failed"
  | .notText => "credential plaintext is not utf-8"

/-- A secret in the clear. It is shown without its text. -/
structure Secret where
  text : String
  deriving DecidableEq

/-- How a secret is shown. -/
def Secret.shown (_ : Secret) : String := "SecretString([redacted])"

/-- The number of bytes of a key. -/
def credentialKeyLength : Nat := 32

/-- A key for credentials. It is shown without its bytes. -/
structure CredentialKey where
  bytes : Bytes
  length_bytes : bytes.length = credentialKeyLength

namespace CredentialKey

/-- How a key is shown. -/
def shown (_ : CredentialKey) : String := "CredentialKey([redacted])"

/-- The key of thirty-two bytes. -/
def ofBytes (bytes : Bytes) : Except CredentialError CredentialKey :=
  if h : bytes.length = credentialKeyLength then .ok ⟨bytes, h⟩ else .error .invalidKey

/-- The key of a Base64 text. -/
def ofBase64 (text : String) : Except CredentialError CredentialKey :=
  match Text.Base64.decode? (Text.trim text) with
  | some bytes => ofBytes bytes
  | none => .error .invalidKey

/-- The block cipher of a key. -/
def cipher (key : CredentialKey) : Block → Block := Aes.cipher key.bytes

/-- Encrypts under a nonce; the nonce is written in front. -/
def encrypt (key : CredentialKey) (nonce plain : Bytes) : Bytes :=
  nonce ++ Gcm.encrypt key.cipher nonce plain

/-- Decrypts a nonce followed by what was encrypted under it. -/
def decrypt (key : CredentialKey) (data : Bytes) : Except CredentialError Bytes :=
  if data.length < Gcm.nonceLength + Gcm.tagLength then .error .notAuthentic
  else
    match Gcm.decrypt? key.cipher (data.take Gcm.nonceLength) (data.drop Gcm.nonceLength) with
    | some plain => .ok plain
    | none => .error .notAuthentic

/-- Seals a secret for storage. -/
def sealSecret (key : CredentialKey) (nonce : Bytes) (secret : Secret) : String :=
  Text.Base64.encode (key.encrypt nonce (Text.Utf8.encode secret.text))

/-- The bytes of a stored credential. -/
def decodeStored (stored : String) : Except CredentialError Bytes :=
  match Text.Base64.decode? (Text.trim stored) with
  | some bytes => .ok bytes
  | none => .error .notBase64

/-- Opens a stored credential. -/
def openStored (key : CredentialKey) (stored : String) : Except CredentialError Secret := do
  let plain ← key.decrypt (← decodeStored stored)
  match Text.Utf8.decode? plain with
  | some text => return ⟨text⟩
  | none => .error .notText

end CredentialKey

end ToolGateway
