import ToolGateway.Breaker.Settings
import ToolGateway.Gateway.Call
import ToolGateway.Gateway.Rejection
import ToolGateway.Limiter
import ToolGateway.ToolServer

/-!
# The gateway

One call passes these checks, and the first that fails rejects it: the tool server is known and
enabled and its breaker settings are readable; its breaker admits the call; the body is readable;
the policy says `auto`; the caller has calls left; the credential opens. Only then does a request
leave the gateway.

`Gateway.start` carries a call up to that point and `Gateway.finish` takes in the reply. Between
the two other calls may run, and a call whose caller goes away is never finished. A trial that is
rejected without evidence about the tool server gives its place back; a trial that goes away
keeps it until the blackout is over.
-/

namespace ToolGateway

/-- What a gateway remembers. -/
structure Gateway where
  registry : Registry
  /-- Why the registry cannot be read, while it cannot. -/
  registryOutage : Option String
  policy : Trust.Policy
  /-- Which parts of the policy cannot be read. -/
  outages : Trust.Outages
  breakers : Breakers
  limiter : Limiter

/-- What is fixed for a gateway. -/
structure Gateway.Settings where
  /-- Calls of one caller to one tool in one window. -/
  limit : Nat
  /-- The length of a window, in nanoseconds. -/
  window : Nat
  /-- The key of the stored credentials. -/
  key : Option CredentialKey

/-- A call that waits for the reply of the tool server. -/
structure InFlight where
  call : Call
  /-- How the breaker let the call pass. -/
  admission : Admission
  /-- When it did. -/
  since : Nat
  /-- The breaker settings found when the call began. -/
  breaker : Breaker.Settings
  /-- Calls left to the caller when this one was counted. -/
  remaining : Nat
  request : Outgoing

namespace Gateway

/-- A gateway that has seen no call. -/
def new (registry : Registry) (policy : Trust.Policy) : Gateway :=
  ⟨registry, none, policy, .none, [], []⟩

/-! ## Checks -/

/-- The enabled tool server of a label, with its breaker settings. -/
def resolve (g : Gateway) (label : String) : Except Rejection (ToolServer × Breaker.Settings) :=
  match g.registryOutage with
  | some reason => .error (.registryFailure reason)
  | none =>
    match g.registry.get? label with
    | none => .error .serverNotFound
    | some server =>
      if server.enabled then
        match Breaker.Settings.parse? server.breaker with
        | none => .error .invalidBreaker
        | some settings => .ok (server, settings)
      else .error .serverDisabled

/-- Reads the body of a call. -/
def readBody (call : Call) : Except Rejection CallBody :=
  match CallBody.parse? call.body with
  | none => .error .invalidBody
  | some body => .ok body

/-- Asks the policy. -/
def checkTrust (g : Gateway) (tool : String) (body : CallBody) : Except Rejection Unit :=
  match (g.policy.source.during g.outages).decide ⟨tool, body.agent, body.workspace⟩ with
  | .error cause => .error (.policyFailure cause)
  | .ok tier => if tier.permits then .ok () else .error (.trustDenied tier)

/-- Opens the credential of a tool server, if it needs one. -/
def openCredential (s : Settings) (server : ToolServer) : Except Rejection (Option Credential) :=
  if server.scheme = .none then .ok none
  else
    match server.credential, s.key with
    | none, _ => .error .credentialMissing
    | some _, none => .error .keyMissing
    | some stored, some key =>
      match key.openStored stored with
      | .error cause => .error (.credentialUnreadable cause)
      | .ok secret => .ok (some ⟨server.scheme, secret⟩)

/-- The request that leaves for a call. -/
def outgoing (call : Call) (server : ToolServer) (body : CallBody)
    (credential : Option Credential) : Outgoing :=
  ⟨server.label, server.endpoint, call.tool, body.arguments, credential⟩

/-! ## Starting and finishing a call -/

/-- The checks behind the breaker: the request with the calls left to the caller, and the limiter
afterwards. -/
def prepare (g : Gateway) (s : Settings) (now : Nat) (call : Call) (server : ToolServer) :
    Except Rejection (Outgoing × Nat) × Limiter :=
  match readBody call with
  | .error r => (.error r, g.limiter)
  | .ok body =>
    match g.checkTrust call.tool body with
    | .error r => (.error r, g.limiter)
    | .ok () =>
      let (verdict, limiter) :=
        g.limiter.spend (Limiter.callKey call.label call.tool call.caller) s.limit s.window now
      if verdict.permitted then
        match openCredential s server with
        | .error r => (.error r, limiter)
        | .ok credential => (.ok (outgoing call server body credential, verdict.remaining), limiter)
      else (.error (.rateLimited verdict.resetAfter), limiter)

/-- Gives back the place of a trial that was rejected without evidence. -/
def settle (breakers : Breakers) (label : String) (admission : Admission) (r : Rejection) :
    Breakers :=
  if admission = .trial ∧ ¬ r.recorded then breakers.release label else breakers

/-- Carries a call up to the point where its request leaves. -/
def start (g : Gateway) (s : Settings) (now : Nat) (call : Call) :
    Except Rejection InFlight × Gateway :=
  match g.resolve call.label with
  | .error r => (.error r, g)
  | .ok (server, breaker) =>
    match g.breakers.attempt call.label breaker now with
    | (none, breakers) => (.error .circuitOpen, { g with breakers })
    | (some admission, breakers) =>
      match g.prepare s now call server with
      | (.ok (request, remaining), limiter) =>
        (.ok ⟨call, admission, now, breaker, remaining, request⟩, { g with breakers, limiter })
      | (.error r, limiter) =>
        (.error r, { g with breakers := settle breakers call.label admission r, limiter })

/-- Takes in the reply to a call. -/
def finish (g : Gateway) (now : Nat) (flight : InFlight) (reply : Reply) :
    Except Rejection Answer × Gateway :=
  let label := flight.call.label
  match reply with
  | .ok answer =>
    let breakers :=
      if 500 ≤ answer.status then g.breakers.fail label flight.breaker now
      else g.breakers.succeed label
    (.ok answer, { g with breakers })
  | .error cause =>
    let r := Rejection.delivery cause
    let breakers :=
      if cause.isEvidence then g.breakers.fail label flight.breaker now else g.breakers
    (.error r, { g with breakers := settle breakers label flight.admission r })

/-! ## What the caller and the audit log learn -/

/-- The outcome of an answer. -/
def outcomeOf (answer : Answer) : Outcome :=
  if 500 ≤ answer.status then .serverFailure else .success

/-- The record of a rejected call. -/
def rejectedEntry (call : Call) (r : Rejection) (reading : Reading) : Audit.Entry :=
  .toolCall call.caller call.label call.tool ⟨r.outcome, reading.latency, none⟩ reading.timestamp

/-- The record of an answered call. -/
def answeredEntry (call : Call) (answer : Answer) (reading : Reading) : Audit.Entry :=
  .toolCall call.caller call.label call.tool
    ⟨outcomeOf answer, reading.latency, some answer.status⟩ reading.timestamp

/-- What the caller gets for an answer. -/
def outputOf (s : Settings) (flight : InFlight) (answer : Answer) (reading : Reading) : Output :=
  ⟨answer.status, answer.body, reading.latency, s.limit, flight.remaining⟩

/-- The enabled tool servers, by label, each with its endpoint. -/
def list (g : Gateway) : Except Failure (List (String × String)) :=
  match g.registryOutage with
  | some _ => .error (.internal "server store unavailable")
  | none => .ok ((g.registry.values.filter (·.enabled)).map fun s => (s.label, s.endpoint))

end Gateway

end ToolGateway
