import ToolGateway.Credential
import ToolGateway.Json.Basic
import ToolGateway.ToolServer

/-!
# Calls that leave the gateway

What is handed to the sender of outgoing calls, and what it gives back. Any status that the tool
server answers is an answer; only a call that got no complete answer is a failure.
-/

namespace ToolGateway

/-- A secret with the way in which it is presented. -/
structure Credential where
  scheme : Scheme
  secret : Secret
  deriving DecidableEq

/-- A call as it leaves the gateway. -/
structure Outgoing where
  label : String
  endpoint : String
  tool : String
  arguments : Json
  credential : Option Credential

/-- What a tool server answered. -/
structure Answer where
  status : Nat
  body : Json

/-- Why an outgoing call got no answer. -/
inductive DeliveryFailure where
  /-- The request could not be built. -/
  | invalidRequest (reason : String)
  /-- The connection failed. -/
  | transport (reason : String)
  /-- No answer came in time. -/
  | timeout
  /-- The answer had more bytes than this limit. -/
  | tooLarge (limit : Nat)
  deriving DecidableEq, Repr

/-- The text of a failure. -/
def DeliveryFailure.message : DeliveryFailure → String
  | .invalidRequest reason => "invalid upstream request: " ++ reason
  | .transport reason => "upstream transport failed: " ++ reason
  | .timeout => "upstream timed out"
  | .tooLarge limit => "upstream response exceeds " ++ Nat.repr limit ++ " bytes"

/-- Whether a failure says that the tool server is not well: the connection failed or no answer
came in time. -/
def DeliveryFailure.isEvidence : DeliveryFailure → Bool
  | .transport _ => true
  | .timeout => true
  | .invalidRequest _ => false
  | .tooLarge _ => false

/-- What becomes of an outgoing call. -/
abbrev Reply := Except DeliveryFailure Answer

end ToolGateway
