import ToolGateway.Proofs.Gateway.Run

/-!
# Complete mediation

A request leaves the gateway if and only if a call asks for it and passes every check in the state
that the gateway is in at that moment. `Session.Clears` lists the checks, each by itself and in no
order, and with them all that is in the request. `Session.forwarded_run_iff` says this of every
event of every run, so no order of calls, replies and other events lets a request slip past a
check or loses one that passes them all.
-/

namespace ToolGateway

/-- The request of a caller that an event brings, if it brings one. -/
def Event.request? : Event → Option Request
  | .call request _ _ => some request
  | .start _ request _ => some request
  | _ => none

/-- A call is made of names that are not blank. -/
theorem Request.toCall_eq_ok_iff {request : Request} {call : Call} :
    request.toCall = .ok call ↔
      Text.trim request.label ≠ "" ∧ Text.trim request.tool ≠ "" ∧
        call.caller = request.caller ∧ call.label = Text.trim request.label ∧
        call.tool = Text.trim request.tool ∧ call.body = request.body := by
  obtain ⟨caller, label, tool, body, hlabel, htool⟩ := call
  unfold toCall
  by_cases hl : Text.trim request.label = ""
  · simp [hl]
  · by_cases ht : Text.trim request.tool = ""
    · simp [hl, ht]
    · simp [hl, ht, eq_comm]

/-- Where a name is blank, there is a failure for it. -/
theorem Request.of_toCall_eq_error {request : Request} {failure : Failure}
    (h : request.toCall = .error failure) : ∃ message, failure = .invalid message := by
  unfold toCall at h
  split at h
  · exact ⟨_, (Except.error.inj h).symm⟩
  · split at h
    · exact ⟨_, (Except.error.inj h).symm⟩
    · cases h

namespace Session

variable {s : Gateway.Settings} {session : Session}

/-- A request of a caller passes every check at the record `server` and with the body `body`, and
`out` is what leaves for it. -/
structure Clears (s : Gateway.Settings) (session : Session) (request : Request)
    (server : ToolServer) (body : CallBody) (out : Outgoing) : Prop where
  label_ne : Text.trim request.label ≠ ""
  tool_ne : Text.trim request.tool ≠ ""
  /-- The registry can be read and has an enabled record of the label. -/
  readable : session.gateway.registryOutage = none
  found : session.gateway.registry.get? (Text.trim request.label) = some server
  enabled : server.enabled = true
  /-- The breaker settings of the record are readable and the breaker admits the call. -/
  admitted : ∃ breaker, Breaker.Settings.parse? server.breaker = some breaker ∧
    (session.gateway.breakers.attempt (Text.trim request.label) breaker session.now).1 ≠ none
  parsed : CallBody.parse? request.body = some body
  allowed : (session.gateway.policy.source.during session.gateway.outages).decide
    ⟨Text.trim request.tool, body.agent, body.workspace⟩ = .ok .auto
  permitted : (session.gateway.limiter.spend
    (Limiter.callKey (Text.trim request.label) (Text.trim request.tool) request.caller)
    s.limit s.window session.now).1.permitted = true
  /-- No credential is needed, or the stored one opens under the key. -/
  opened : server.scheme = .none ∧ out.credential = none ∨
    server.scheme ≠ .none ∧ ∃ stored key secret, server.credential = some stored ∧
      s.key = some key ∧ key.openStored stored = .ok secret ∧
      out.credential = some ⟨server.scheme, secret⟩
  label_eq : out.label = server.label
  endpoint_eq : out.endpoint = server.endpoint
  tool_eq : out.tool = Text.trim request.tool
  arguments_eq : out.arguments = body.arguments

/-- A call leaves the gateway if and only if it passes every check. -/
theorem exists_start_iff_clears {request : Request} {out : Outgoing} :
    (∃ call flight, request.toCall = .ok call ∧
        (session.gateway.start s session.now call).1 = .ok flight ∧ flight.request = out) ↔
      ∃ server body, session.Clears s request server body out := by
  constructor
  · rintro ⟨call, flight, hcall, hstart, rfl⟩
    obtain ⟨hlabel, htool, hcaller, hl, ht, hb⟩ := Request.toCall_eq_ok_iff.mp hcall
    obtain ⟨server, hresolve, hattempt, hprepare, -, -⟩ := Gateway.start_fst_eq_ok_iff.mp hstart
    obtain ⟨hreadable, hfound, henabled, hparse⟩ := Gateway.resolve_eq_ok_iff.mp hresolve
    obtain ⟨body, credential, hbody, htrust, hspend, hopen, hrequest, -⟩ :=
      Gateway.prepare_fst_eq_ok_iff.mp hprepare
    have hopened := Gateway.openCredential_eq_ok_iff.mp hopen
    rw [hl] at hfound hattempt hspend
    rw [ht] at htrust hspend
    rw [hcaller] at hspend
    rw [hb] at hbody
    rw [hrequest]
    exact ⟨server, body, {
      label_ne := hlabel
      tool_ne := htool
      readable := hreadable
      found := hfound
      enabled := henabled
      admitted := ⟨flight.breaker, hparse, by rw [hattempt]; exact Option.some_ne_none _⟩
      parsed := hbody
      allowed := htrust
      permitted := hspend
      opened := hopened
      label_eq := rfl
      endpoint_eq := rfl
      tool_eq := ht
      arguments_eq := rfl }⟩
  · rintro ⟨server, body, h⟩
    obtain ⟨breaker, hparse, hadmitted⟩ := h.admitted
    obtain ⟨admission, hattempt⟩ := Option.ne_none_iff_exists'.mp hadmitted
    obtain ⟨call, hcall⟩ : ∃ call, request.toCall = .ok call :=
      ⟨⟨request.caller, _, _, request.body, h.label_ne, h.tool_ne⟩,
        Request.toCall_eq_ok_iff.mpr ⟨h.label_ne, h.tool_ne, rfl, rfl, rfl, rfl⟩⟩
    obtain ⟨-, -, hcaller, hl, ht, hb⟩ := Request.toCall_eq_ok_iff.mp hcall
    have hparsed := h.parsed
    have hallowed := h.allowed
    have hpermitted := h.permitted
    rw [← hb] at hparsed
    rw [← ht] at hallowed
    rw [← hl, ← ht, ← hcaller] at hpermitted
    have hresolve : session.gateway.resolve call.label = .ok (server, breaker) :=
      Gateway.resolve_eq_ok_iff.mpr ⟨h.readable, hl ▸ h.found, h.enabled, hparse⟩
    have hprepare := Gateway.prepare_fst_eq_ok_iff.mpr ⟨body, out.credential, hparsed, hallowed,
      hpermitted, Gateway.openCredential_eq_ok_iff.mpr h.opened, rfl, rfl⟩
    refine ⟨call, ⟨call, admission, session.now, breaker, _, _⟩, hcall,
      Gateway.start_fst_eq_ok_iff.mpr ⟨server, hresolve, hl ▸ hattempt, hprepare, rfl, rfl⟩, ?_⟩
    simp only [ht, ← h.label_eq, ← h.endpoint_eq, ← h.tool_eq, ← h.arguments_eq]

/-! ## What leaves at an event -/

/-- A call that ends sends nothing more. -/
theorem finishCall_forwarded (session : Session) (forwarded : List Outgoing) (flight : InFlight)
    (reply : Reply) (reading : Reading) :
    (session.finishCall s forwarded flight reply reading).1.forwarded = forwarded := by
  unfold finishCall
  rcases session.gateway.finish session.now flight reply with ⟨outcome, gateway⟩
  cases outcome <;> rfl

/-- A call that begins sends one request if it passes every check, and none otherwise. -/
theorem forwarded_startCall (session : Session) (request : Request) (reading : Reading)
    {goOn : Session → InFlight → Effects × Session}
    (hgoOn : ∀ session flight, (goOn session flight).1.forwarded = [flight.request]) :
    (session.startCall s request reading goOn).1.forwarded.length ≤ 1 ∧
      ∀ out, out ∈ (session.startCall s request reading goOn).1.forwarded ↔
        ∃ server body, session.Clears s request server body out := by
  simp only [← exists_start_iff_clears]
  rcases startCall_cases (s := s) session request reading goOn with
    ⟨failure, hcall, h⟩ | ⟨call, r, hcall, hstart, h⟩ | ⟨call, flight, hcall, hstart, h⟩ <;> rw [h]
  · simp [hcall]
  · simp [rejected, hcall, hstart]
  · simp [hgoOn, hcall, hstart, eq_comm]

/-- Only a call that begins sends a request, and only if it passes every check. -/
theorem forwarded_step (session : Session) (event : Event) :
    (session.step s event).1.forwarded.length ≤ 1 ∧
      ∀ out, out ∈ (session.step s event).1.forwarded ↔
        ∃ request, event.request? = some request ∧
          ∃ server body, session.Clears s request server body out := by
  cases event with
  | call request reply reading =>
    simpa [step, Event.request?] using forwarded_startCall session request reading
      fun session flight => finishCall_forwarded session _ flight _ reading
  | start id request reading =>
    simpa [step, Event.request?] using forwarded_startCall session request reading fun _ _ => rfl
  | finish id reply reading =>
    rw [step_finish]
    cases session.pending.get? id with
    | none => simp [Event.request?]
    | some flight => simp [Event.request?, finishCall_forwarded]
  | drop id =>
    rw [step_drop]
    cases session.pending.get? id <;> simp [Event.request?]
  | _ => simp [step, quiet, Event.request?]

/-! ## What leaves in a run -/

/-- At every event of every run at most one request leaves, and a request leaves if and only if
the event brings a call that passes every check in the state reached before it. -/
theorem forwarded_run_iff (session : Session) (earlier later : List Event) (event : Event) :
    ∃ effects, (session.run s (earlier ++ event :: later)).1[earlier.length]? = some effects ∧
      effects.forwarded.length ≤ 1 ∧
      ∀ out, out ∈ effects.forwarded ↔ ∃ request, event.request? = some request ∧
        ∃ server body, (session.run s earlier).2.Clears s request server body out := by
  refine ⟨((session.run s earlier).2.step s event).1, ?_, forwarded_step _ event⟩
  rw [run_append, List.getElem?_append_right (Nat.le_of_eq (length_run_fst session earlier)),
    length_run_fst, Nat.sub_self]
  rfl

end Session

end ToolGateway
