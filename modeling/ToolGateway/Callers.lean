import ToolGateway.Crypto.Sha256
import ToolGateway.Net.Address
import ToolGateway.Text.Blank
import ToolGateway.Text.Quoted
import ToolGateway.Text.Utf8

/-!
# Callers

Who may call. In local mode every loopback peer is the same caller and nobody else gets in; in
token mode the authorization header must carry a configured token. The peer plays no part in token
mode, and the header none in local mode.
-/

namespace ToolGateway

/-- How callers are told apart. -/
inductive CallerMode where
  /-- Only loopback peers get in. -/
  | localOnly
  /-- Only callers with a configured token get in. -/
  | bearerToken
  deriving DecidableEq, Repr

/-- How a mode is shown. -/
def CallerMode.shown : CallerMode → String
  | .localOnly => "LocalOnly"
  | .bearerToken => "BearerToken"

/-- A caller with a token. -/
structure Caller where
  id : String
  token : String
  deriving DecidableEq, Repr

/-- How a caller is shown: without the token. -/
def Caller.shown (c : Caller) : String :=
  "CallerConfig \x7b id: " ++ Text.Quoted.encode c.id ++ ", token: \"[redacted]\" \x7d"

/-- Everybody who may call. -/
structure Callers where
  mode : CallerMode
  callers : List Caller
  deriving DecidableEq, Repr

/-- Who made a call. -/
structure Identity where
  id : String
  /-- The digest of the token that was shown, if one was. -/
  fingerprint : Option String
  deriving DecidableEq, Repr

/-- Why a call has no caller. -/
inductive AuthFailure where
  | notLoopback
  | missing
  | tooLarge
  | malformed
  | unknownToken
  deriving DecidableEq, Repr

/-- What was wrong, in words. -/
def AuthFailure.reason : AuthFailure → String
  | .notLoopback => "local-only mode requires loopback access"
  | .missing => "missing authorization"
  | .tooLarge => "authorization header too large"
  | .malformed => "invalid authorization header"
  | .unknownToken => "invalid bearer token"

/-- The text of a failure. -/
def AuthFailure.message (failure : AuthFailure) : String := "unauthenticated: " ++ failure.reason

namespace Callers

/-- Local mode without configuration. -/
def localOnly : Callers := ⟨.localOnly, []⟩

/-- How callers are shown: without their tokens. -/
def shown (c : Callers) : String :=
  "CallerAuthz \x7b mode: " ++ c.mode.shown ++ ", callers: " ++ Nat.repr c.callers.length ++ " \x7d"

/-- Headers of more bytes than this are refused unread. -/
def maxHeaderLength : Nat := 8192

/-- The id of every loopback peer in local mode. -/
def loopbackId : String := "loopback"

/-- The small letter for an ASCII capital; all else stays. -/
def foldCase (c : Char) : Char :=
  if 'A' ≤ c ∧ c ≤ 'Z' then Char.ofNat (c.toNat + 0x20) else c

/-- Cuts a text at its first space. -/
def cutAtSpace (cs : List Char) : List Char × List Char :=
  (cs.takeWhile (· ≠ ' '), (cs.dropWhile (· ≠ ' ')).drop 1)

/-- The token of an authorization header: what follows the word `bearer`, in any case, and a
space. -/
def bearerToken (header : Option String) : Except AuthFailure String :=
  match header with
  | none => .error .missing
  | some header =>
    if maxHeaderLength < header.utf8ByteSize then .error .tooLarge
    else
      let (scheme, rest) := cutAtSpace (Text.trimChars header.toList)
      let token := Text.trimChars rest
      if scheme.map foldCase ≠ "bearer".toList ∨ token = [] then .error .malformed
      else .ok (String.ofList token)

/-- The digest by which a token may be named. -/
def fingerprint (token : String) : String :=
  Text.hexOfBytes (Sha256.digest (Text.Utf8.encode token))

/-- Tells who makes a call. -/
def authenticate (c : Callers) (peer : Option IpAddress) (header : Option String) :
    Except AuthFailure Identity :=
  match c.mode with
  | .localOnly =>
    if peer.any IpAddress.isLoopback then .ok ⟨loopbackId, none⟩ else .error .notLoopback
  | .bearerToken =>
    match bearerToken header with
    | .error failure => .error failure
    | .ok token =>
      match c.callers.find? (·.token == token) with
      | some caller => .ok ⟨caller.id, some (fingerprint token)⟩
      | none => .error .unknownToken

end Callers

end ToolGateway
