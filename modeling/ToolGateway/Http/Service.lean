import ToolGateway.Callers
import ToolGateway.Gateway.Session
import ToolGateway.Http.Route

/-!
# The HTTP service

A request is first routed. On every route but the sign of life the caller must be known before
anything else is looked at; for a call the path must be readable next, then the body must be small
enough, and only then does the call enter the gateway.
-/

namespace ToolGateway.Http

/-- What is fixed for a service. -/
structure Service where
  callers : Callers
  /-- Bodies of more bytes are refused. -/
  maxBody : Nat
  gateway : Gateway.Settings

/-- The response to a failed call. -/
def failureResponse (f : Failure) : Response :=
  .json f.status f.toJson <|
    match f with
    | .rateLimited seconds => [("retry-after", Nat.repr seconds)]
    | _ => []

/-- The response to a successful call. -/
def outputResponse (o : Output) : Response :=
  .json 200 o.toJson
    [("x-ratelimit-limit", Nat.repr o.limit), ("x-ratelimit-remaining", Nat.repr o.remaining)]

/-- The response that lists tool servers. -/
def listResponse (servers : List (String × String)) : Response :=
  .json 200 (.object [("servers", .array (servers.map fun (label, endpoint) =>
    .object [("label", .string label), ("endpoint", .string endpoint)]))]) []

/-- The sign of life. -/
def healthResponse : Response := .json 200 (.object [("status", .string "ok")]) []

/-- The response to what a caller was told. -/
def toldResponse : Told → Response
  | .result (.ok o) => outputResponse o
  | .result (.error f) => failureResponse f
  | _ => .empty 500 []

namespace Service

/-- Tells who sends a request. -/
def identify (service : Service) (r : Request) : Except Failure Identity :=
  match service.callers.authenticate (some r.peer) (r.headerText? "authorization") with
  | .ok who => .ok who
  | .error _ => .error (.unauthenticated "caller authentication required")

/-- The call of a request, if nothing stands in its way. -/
def accept (service : Service) (r : Request) (label tool : String) :
    Except Failure ToolGateway.Request := do
  let who ← service.identify r
  match segmentText? label, segmentText? tool with
  | some label, some tool =>
    if service.maxBody < r.body.length then .error .tooLarge
    else .ok ⟨who.id, label, tool, r.body⟩
  | _, _ => .error (.invalid "invalid request path")

/-- Takes a request of a route that serves its method. -/
def serve (service : Service) (session : Session) (r : Request)
    (event : ToolGateway.Request → Event) : Route → Response × Effects × Session
  | .health => (healthResponse, Session.quiet, session)
  | .tools =>
    let response :=
      match service.identify r with
      | .error f => failureResponse f
      | .ok _ =>
        match session.gateway.list with
        | .error f => failureResponse f
        | .ok servers => listResponse servers
    (response, Session.quiet, session)
  | .call label tool =>
    match service.accept r label tool with
    | .error f => (failureResponse f, Session.quiet, session)
    | .ok request =>
      let (effects, session) := session.step service.gateway (event request)
      (toldResponse effects.told, effects, session)

/-- Takes a request; `event` says what a call that is accepted becomes for the gateway. -/
def take (service : Service) (session : Session) (r : Request)
    (event : ToolGateway.Request → Event) : Response × Effects × Session :=
  match Route.ofTarget? r.target with
  | none => (.empty 404 [], Session.quiet, session)
  | some route =>
    if route.serves r.method then
      let (response, rest) := service.serve session r event route
      (if r.method = "HEAD" then response.withoutBody else response, rest)
    else (.empty 405 [("allow", route.allowed)], Session.quiet, session)

/-- Answers a request whose call, if there is one, is replied to at once. -/
def respond (service : Service) (session : Session) (r : Request) (reply : Outgoing → Reply)
    (reading : Reading) : Response × Effects × Session :=
  service.take session r fun request => .call request reply reading

end Service

end ToolGateway.Http
