import ToolGateway.Delivery.Intake
import ToolGateway.Delivery.Post

/-!
# Sending calls

A call is built, sent and answered. The exchange itself is a function from the request to what
arrives, so that sending is a function too. Redirects are answers like any other.
-/

namespace ToolGateway

/-- The outside: what becomes of a request. -/
abbrev Exchange := Post → Except DeliveryFailure Arrival

/-- The failure of a request that no connection takes. -/
def unsendable : DeliveryFailure := .transport "the URL cannot be requested"

/-- Sends a call and reads its answer under a limit. -/
def Exchange.send (exchange : Exchange) (limit : Nat) (o : Outgoing) : Reply := do
  let post ← Post.ofOutgoing o
  let arrival ← if post.isSendable then exchange post else .error unsendable
  let bytes ← arrival.body limit
  return ⟨arrival.status, Arrival.readBody bytes⟩

end ToolGateway
