import ToolGateway.Delivery.Framing
import ToolGateway.Delivery.Post

/-!
# Posts and answers on a connection

How a post is written to a connection and an answer is read from one, in HTTP/1.1. A post asks for
the connection to be closed behind the answer, so that the answer is all that arrives until then.
-/

namespace ToolGateway

/-! ## Writing -/

/-- The name under which a request asks for the host of a URL. -/
def Url.Authority.hostName (a : Url.Authority) : String :=
  Url.Host.render a.host ++ (a.portNumber.map fun n => ":" ++ Nat.repr n).getD ""

/-- The header lines of a post. -/
def Post.headers (p : Post) : List (String × String) :=
  [("host", (p.url.authority.map Url.Authority.hostName).getD ""), ("accept", "*/*"),
    ("content-type", Post.contentType), ("content-length", Nat.repr p.body.utf8ByteSize),
    ("connection", "close")] ++ p.authorization.map fun value => ("authorization", value)

/-- A post as it is written. -/
def Post.wire (p : Post) : String :=
  Post.method ++ " " ++ p.url.target ++ " HTTP/1.1\r\n" ++
    String.join (p.headers.map fun (name, value) => name ++ ": " ++ value ++ "\r\n") ++
    "\r\n" ++ p.body

/-! ## Reading -/

/-- The answer in the bytes that arrived on a connection. Heads that only tell that the answer is on
its way are passed over. -/
def Arrival.ofWire (bytes : Bytes) : Except DeliveryFailure Arrival :=
  match h : Head.cutLines? [] [] bytes with
  | none => .error closedEarly
  | some (lines, rest) =>
    match Head.ofLines? lines with
    | none => .error malformed
    | some head =>
      if head.isInterim then
        have := Head.length_lt_of_cutLines? h
        Arrival.ofWire rest
      else
        match Framing.ofHead? head with
        | none => .error malformed
        | some framing =>
          let (chunks, cutShort) := framing.read rest
          .ok ⟨head.status, chunks, cutShort⟩
termination_by bytes.length

end ToolGateway
