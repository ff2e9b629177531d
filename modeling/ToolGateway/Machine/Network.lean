import Std.Async.Signal
import Std.Http.Server
import ToolGateway.Delivery.Wire
import ToolGateway.Machine.Files

/-!
# The network of the machine

A server listens for requests, and every call that its gateway lets pass goes out over a connection
of its own. Calls run side by side: the state of the gateway is held only while a call begins and
while it ends, and not while it waits for its answer.

Connections are not encrypted; a call to an endpoint that asks for encryption fails as one whose
connection failed.
-/

namespace ToolGateway.Machine

open Std.Async

/-! ## Addresses -/

/-- An address as the system takes it. -/
def systemAddress (ip : IpAddress) (portNumber : Nat) : Std.Net.SocketAddress :=
  match ip with
  | .v4 ⟨a, b, c, d⟩ =>
    .v4 ⟨.ofParts a.toUInt8 b.toUInt8 c.toUInt8 d.toUInt8, portNumber.toUInt16⟩
  | .v6 groups =>
    let group (i : Nat) : UInt16 := (groups.getD i 0).toUInt16
    .v6 ⟨.ofParts (group 0) (group 1) (group 2) (group 3) (group 4) (group 5) (group 6) (group 7),
      portNumber.toUInt16⟩

/-- An address as the system gives it. -/
def addressOf : Std.Net.SocketAddress → SocketAddress
  | .v4 ⟨address, number⟩ =>
    let part (i : Nat) : Nat := (address.octets.toList.getD i 0).toNat
    ⟨.v4 ⟨part 0, part 1, part 2, part 3⟩, 0, number.toNat⟩
  | .v6 ⟨address, number⟩ => ⟨.v6 (address.segments.toList.map UInt16.toNat), 0, number.toNat⟩

/-! ## Calls that go out -/

/-- The addresses of a host. -/
def resolve (host : Url.Host) (portNumber : Nat) : Async (List Std.Net.SocketAddress) := do
  match host with
  | .v4 address => return [systemAddress (.v4 address) portNumber]
  | .v6 groups => return [systemAddress (.v6 groups) portNumber]
  | .domain name =>
    let found ← DNS.getAddrInfo name (Nat.repr portNumber)
    return found.toList.map fun
      | .v4 address => .v4 ⟨address, portNumber.toUInt16⟩
      | .v6 address => .v6 ⟨address, portNumber.toUInt16⟩

/-- Runs an action for so many milliseconds at most. -/
def within {α : Type} (milliseconds : Nat) (action : Async α) : Async (Option α) :=
  Async.race (some <$> action) do
    sleep (.ofNat milliseconds)
    return none

/-- Writes a post to a connection and reads the answer until the connection is closed, or longer
than any answer that is wanted. -/
def converse (most : Nat) (socket : TCP.Socket.Client) (post : Post) : Async Bytes := do
  socket.send post.wire.toUTF8
  let mut arrived := ByteArray.empty
  while arrived.size ≤ most do
    match ← socket.recv? 65536 with
    | none => break
    | some more => arrived := arrived ++ more
  return bytesOf arrived

/-- Room for the head of an answer, in bytes. -/
def maxHead : Nat := 65536

/-- Sends a post over a connection of its own. -/
def exchange (delivery : Config.Delivery) (post : Post) : Async (Except DeliveryFailure Arrival) := do
  if post.url.scheme ≠ "http" then
    return .error (.transport "no encrypted connections")
  match post.url.authority with
  | none => return .error unsendable
  | some authority =>
    let outcome ← try
      within delivery.callTimeout do
        match ← resolve authority.host (authority.portNumber.getD 80) with
        | [] => return .error (.transport "no such host")
        | address :: _ =>
          let socket ← TCP.Socket.Client.mk
          match ← within delivery.connectTimeout (socket.connect address) with
          | none => return .error DeliveryFailure.timeout
          | some () =>
            return Arrival.ofWire (← converse (delivery.maxAnswer + maxHead) socket post)
    catch e => pure (some (.error (.transport (toString e))))
    return outcome.getD (.error .timeout)

/-- What becomes of a call that goes out. -/
def replyTo (delivery : Config.Delivery) (o : Outgoing) : Async Reply := do
  let arrival ← match Post.ofOutgoing o with
    | .error failure => pure (.error failure)
    | .ok post => if post.isSendable then exchange delivery post else pure (.error unsendable)
  return Exchange.send (fun _ => arrival) delivery.maxAnswer o

/-! ## Requests that come in -/

/-- A server at work. -/
structure Running where
  server : Server
  /-- The state of the gateway, and how many requests there were. -/
  state : Std.Mutex (Session × Nat)
  files : OpenFiles

/-- Milliseconds since 1970. -/
def wallClock : IO Nat := do
  return (← Std.Time.Timestamp.now).toMillisecondsSinceUnixEpoch.toInt.toNat

/-- The clocks as a call reads them that began at some time. -/
def readClocks (began : Nat) : IO Reading := do
  return ⟨((← IO.monoNanosNow) - began) / Time.millisecond, ← wallClock⟩

/-- Lets the clock of a session catch up. -/
def catchUp (running : Running) (session : Session) : IO Session := do
  let now ← IO.monoNanosNow
  return (session.step running.server.service.gateway (.advance (now - session.now))).2

/-- Takes a request, up to the point where a call leaves. -/
def takeRequest (running : Running) (request : Http.Request) (reading : Reading) :
    IO (Http.Response × Effects × String) :=
  running.state.atomically do
    let (session, count) ← get
    let id := Nat.repr count
    let session ← catchUp running session
    let (response, effects, session) :=
      running.server.service.take session request fun call => .start id call reading
    set (session, count + 1)
    return (response, effects, id)

/-- Takes the reply to a call. -/
def takeReply (running : Running) (id : String) (reply : Reply) (reading : Reading) : IO Effects :=
  running.state.atomically do
    let (session, count) ← get
    let session ← catchUp running session
    let (effects, session) :=
      session.step running.server.service.gateway (.finish id (fun _ => reply) reading)
    set (session, count)
    return effects

/-- Answers a request. -/
def answer (running : Running) (request : Http.Request) : Async Http.Response := do
  let began ← IO.monoNanosNow
  let (response, effects, id) ← takeRequest running request (← readClocks began)
  let (response, effects) ← match effects.forwarded with
    | [] => pure (response, effects)
    | outgoing :: _ =>
      let reply ← replyTo running.server.delivery outgoing
      let effects ← takeReply running id reply (← readClocks began)
      pure (Http.toldResponse effects.told, effects)
  for entry in effects.audited do
    record running.files running.server.sink entry
  return response

/-- Where a request comes from; an address that nobody has, if that is not known. -/
def peerOf (request : Std.Http.Request Std.Http.Body.Stream) : IpAddress :=
  match request.extensions.get Std.Http.Server.RemoteAddr with
  | some remote => (addressOf remote.addr).ip
  | none => .v4 ⟨0, 0, 0, 0⟩

/-- A request as it came in, with its body up to a size that is too great already. -/
def receive (maxBody : Nat) (request : Std.Http.Request Std.Http.Body.Stream) :
    ContextAsync Http.Request := do
  let mut body := ByteArray.empty
  for chunk in request.body do
    body := body ++ chunk.data
    if maxBody < body.size then
      break
  return {
    method := toString request.line.method
    target := toString request.line.uri
    headers := request.line.headers.toList.map fun (name, value) =>
      (name.value, Text.Utf8.encode value.value)
    body := bytesOf body
    peer := peerOf request }

/-- A response as it goes out. -/
def send (response : Http.Response) : Async (Std.Http.Response Std.Http.Body.Full) := do
  let status := (Std.Http.Status.ofCode none response.status.toUInt16).getD .internalServerError
  let builder := response.headers.foldl
    (fun builder (name, value) => (builder.header? name value).getD builder)
    (Std.Http.Response.withStatus status)
  builder.fromBytes response.body.toUTF8

instance : Std.Http.Server.Handler Running where
  ResponseBody := Std.Http.Body.Full
  responseBodyInstance := inferInstance
  onRequest running request := do
    let received ← receive running.server.service.maxBody request
    let response ← answer running received
    send response

/-! ## Listening -/

/-- Waits until the program is told to stop, by either of two signals. -/
def awaitSignal (first second : Signal.Waiter) : Async Unit :=
  Selectable.one #[.case first.selector pure, .case second.selector pure]

/-- Listens at the address of a server. -/
def listen (files : OpenFiles) (server : Server) :
    IO (Except FileError (Command.Listening IO)) :=
  attempt do
    let began ← IO.monoNanosNow
    let state ← Std.Mutex.new ({ server.session with now := began }, 0)
    let serving ← Async.block <|
      Std.Http.Server.serve (systemAddress server.address.ip server.address.portNumber)
        (Running.mk server state files)
    let interrupted ← Signal.Waiter.mk .sigint false
    let terminated ← Signal.Waiter.mk .sigterm false
    return {
      address := (serving.localAddr.map addressOf).getD server.address
      awaitStop := Async.block (awaitSignal interrupted terminated)
      finish := Async.block (do serving.shutdown; serving.waitShutdown) }

end ToolGateway.Machine
