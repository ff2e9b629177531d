import ToolGateway.Audit.Sink
import ToolGateway.Gateway.Basic

/-!
# Sessions

A session is a gateway with its clock and the calls that wait for a reply. Calls may start and
finish in any order, and other events come between: time passes, records and policy rows are
added, sources fail and recover, a caller goes away.

`Session.step` takes one event and tells what it gave rise to: the requests that left, the audit
records, and what the caller was told. `Session.run` takes a list of events, and
`Session.runRecording` hands the audit records to a sink as they come.
-/

namespace ToolGateway

/-- A gateway at work. -/
structure Session where
  gateway : Gateway
  /-- Nanoseconds since the clock began. -/
  now : Nat
  /-- The calls that wait for a reply, each with a name for it. -/
  pending : Table InFlight

/-- Something that happens to a session. -/
inductive Event where
  /-- A call that is answered at once. -/
  | call (request : Request) (reply : Outgoing → Reply) (reading : Reading)
  /-- A call that begins. -/
  | start (id : String) (request : Request) (reading : Reading)
  /-- The reply to a call that waits. -/
  | finish (id : String) (reply : Outgoing → Reply) (reading : Reading)
  /-- The caller of a call that waits goes away. -/
  | drop (id : String)
  /-- Time passes. -/
  | advance (nanoseconds : Nat)
  /-- A record is added or replaced. -/
  | register (server : ToolServer)
  | addOverride (row : Trust.Override)
  | addRule (workspace : String) (row : Trust.Rule)
  | addDefault (row : Trust.Default)
  /-- From now on just these sources fail. -/
  | outage (registry : Option String) (policy : Trust.Outages)

/-- What a caller is told at an event. -/
inductive Told where
  /-- Nothing. -/
  | nothing
  /-- The end of a call. -/
  | result (result : Except Failure Output)
  /-- The call waits for its reply. -/
  | waiting
  /-- The call was given up. -/
  | dropped
  /-- No call of that name waits. -/
  | unknown

/-- What an event gave rise to. -/
structure Effects where
  forwarded : List Outgoing
  audited : List Audit.Entry
  told : Told

namespace Session

/-- A session at the beginning. -/
def new (g : Gateway) : Session := ⟨g, 0, []⟩

/-- An event that nobody notices. -/
def quiet : Effects := ⟨[], [], .nothing⟩

/-- The effects of a rejection. -/
def rejected (forwarded : List Outgoing) (call : Call) (r : Rejection) (reading : Reading) :
    Effects :=
  ⟨forwarded, [Gateway.rejectedEntry call r reading], .result (.error r.failure)⟩

/-- The end of a call that had left the gateway. -/
def finishCall (s : Gateway.Settings) (session : Session) (forwarded : List Outgoing)
    (flight : InFlight) (reply : Reply) (reading : Reading) : Effects × Session :=
  match session.gateway.finish session.now flight reply with
  | (.ok answer, gateway) =>
    (⟨forwarded, [Gateway.answeredEntry flight.call answer reading],
      .result (.ok (Gateway.outputOf s flight answer reading))⟩, { session with gateway })
  | (.error r, gateway) => (rejected forwarded flight.call r reading, { session with gateway })

/-- The beginning of a call; `goOn` goes on with one that left the gateway. -/
def startCall (s : Gateway.Settings) (session : Session) (request : Request) (reading : Reading)
    (goOn : Session → InFlight → Effects × Session) : Effects × Session :=
  match request.toCall with
  | .error failure => (⟨[], [], .result (.error failure)⟩, session)
  | .ok call =>
    match session.gateway.start s session.now call with
    | (.error r, gateway) => (rejected [] call r reading, { session with gateway })
    | (.ok flight, gateway) => goOn { session with gateway } flight

/-- Takes one event. -/
def step (s : Gateway.Settings) (session : Session) : Event → Effects × Session
  | .call request reply reading =>
    session.startCall s request reading fun session flight =>
      session.finishCall s [flight.request] flight (reply flight.request) reading
  | .start id request reading =>
    session.startCall s request reading fun session flight =>
      (⟨[flight.request], [], .waiting⟩,
        { session with pending := Table.insert session.pending id flight })
  | .finish id reply reading =>
    match session.pending.get? id with
    | none => (⟨[], [], .unknown⟩, session)
    | some flight =>
      { session with pending := session.pending.erase id }.finishCall s [] flight
        (reply flight.request) reading
  | .drop id =>
    match session.pending.get? id with
    | none => (⟨[], [], .unknown⟩, session)
    | some _ => (⟨[], [], .dropped⟩, { session with pending := session.pending.erase id })
  | .advance nanoseconds => (quiet, { session with now := session.now + nanoseconds })
  | .register server =>
    let registry := Registry.register session.gateway.registry server
    (quiet, { session with gateway := { session.gateway with registry } })
  | .addOverride row =>
    let policy := session.gateway.policy.addOverride row
    (quiet, { session with gateway := { session.gateway with policy } })
  | .addRule workspace row =>
    let policy := session.gateway.policy.addRule workspace row
    (quiet, { session with gateway := { session.gateway with policy } })
  | .addDefault row =>
    let policy := session.gateway.policy.addDefault row
    (quiet, { session with gateway := { session.gateway with policy } })
  | .outage registryOutage outages =>
    (quiet, { session with gateway := { session.gateway with registryOutage, outages } })

/-- Takes a list of events. -/
def run (s : Gateway.Settings) (session : Session) : List Event → List Effects × Session
  | [] => ([], session)
  | event :: events =>
    let (effects, session) := session.step s event
    let (more, session) := session.run s events
    (effects :: more, session)

/-- Takes a list of events and hands the audit records of each to a sink. -/
def runRecording {m : Type → Type} [Monad m]
    (write : Option (Audit.Entry → m (Option FileError))) (report : String → m Unit)
    (s : Gateway.Settings) (session : Session) : List Event → m (List Effects × Session)
  | [] => pure ([], session)
  | event :: events => do
    let (effects, session) := session.step s event
    effects.audited.forM (Audit.dispatch write report)
    let (more, session) ← session.runRecording write report s events
    return (effects :: more, session)

end Session

end ToolGateway
