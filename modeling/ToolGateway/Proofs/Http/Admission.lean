import ToolGateway.Http.Service
import ToolGateway.Proofs.Text.WellFormed

/-!
# Nothing without a caller

A service settles who sends a request before it looks at anything else of it. A stranger learns only
that callers must be known, whatever else is wrong with the request, and the gateway does not notice
it. The call of a known caller enters the gateway if and only if both of its names can be read and
its body is small enough. Otherwise it is turned away for its path, or else for its size, and the
gateway does not notice it either.
-/

namespace ToolGateway.Http

/-! ## Names in a path -/

/-- A segment of a path spells a text: with its escapes read, it has the bytes of the text. -/
def Spells (segment text : String) : Prop :=
  Text.Utf8.encode text = Text.Percent.decode (Text.Utf8.encode segment)

instance (segment text : String) : Decidable (Spells segment text) :=
  inferInstanceAs (Decidable (_ = _))

/-- A segment is read as the text that it spells. -/
theorem segmentText?_eq_some_iff {segment text : String} :
    segmentText? segment = some text ↔ Spells segment text := by
  constructor
  · intro h
    exact Text.Utf8.encode_of_decode? h
  · intro h
    rw [segmentText?, ← h, Text.Utf8.decode?_encode]

/-- It cannot be read if it spells none. -/
theorem segmentText?_eq_none_iff {segment : String} :
    segmentText? segment = none ↔ ∀ text, ¬ Spells segment text := by
  rw [Option.eq_none_iff_forall_ne_some]
  apply forall_congr'
  intro text
  exact not_congr segmentText?_eq_some_iff

/-! ## Responses to failures -/

/-- The response to a stranger. -/
theorem failureResponse_unauthenticated :
    failureResponse (.unauthenticated "caller authentication required") =
      ⟨401, [("content-type", "application/json")],
        "\x7b\"success\":false,\"error\":\x7b\"code\":\"UNAUTHENTICATED\"," ++
          "\"message\":\"caller authentication required\"\x7d\x7d"⟩ := by
  decide +kernel

/-- The response to a path that cannot be read. -/
theorem failureResponse_invalidPath :
    failureResponse (.invalid "invalid request path") =
      ⟨400, [("content-type", "application/json")],
        "\x7b\"success\":false,\"error\":\x7b\"code\":\"INVALID_REQUEST\"," ++
          "\"message\":\"invalid request path\"\x7d\x7d"⟩ := by
  decide +kernel

/-- The response to a body that is too large. -/
theorem failureResponse_tooLarge :
    failureResponse .tooLarge =
      ⟨413, [("content-type", "application/json")],
        "\x7b\"success\":false,\"error\":\x7b\"code\":\"PAYLOAD_TOO_LARGE\"," ++
          "\"message\":\"request body exceeds size limit\"\x7d\x7d"⟩ := by
  decide +kernel

namespace Service

/-! ## Turned away or let in -/

/-- Who sends a request, by where it comes from and by its authorization header. -/
def sender (service : Service) (r : Request) : Except AuthFailure Identity :=
  service.callers.authenticate (some r.peer) (r.headerText? "authorization")

/-- A request is turned away with a response: whatever state the gateway is in, it stays in it,
nothing leaves it and nothing is recorded. -/
def TurnsAway (service : Service) (r : Request) (response : Response) : Prop :=
  ∀ session event, service.take session r event = (response, Session.quiet, session)

/-- A request enters the gateway as a call: whatever state the gateway is in and however the call is
to go on, it is the next event there, and the response says what the caller is told. -/
def Enters (service : Service) (r : Request) (call : ToolGateway.Request) : Prop :=
  ∀ session event, service.take session r event =
    (toldResponse (session.step service.gateway (event call)).1.told,
      session.step service.gateway (event call))

variable {service : Service} {r : Request} {route : Route} {label tool : String}
  {call : ToolGateway.Request}

/-- A request enters as one call at most. -/
theorem Enters.unique {other : ToolGateway.Request} (h : service.Enters r call)
    (hother : service.Enters r other) : call = other := by
  let session : Session := .new (.new [] .empty)
  -- Time goes on for the one call and stands still for all others.
  let event (x : ToolGateway.Request) : Event := .advance (if x = call then 1 else 0)
  have hsame := (h session event).symm.trans (hother session event)
  have hnow : (if call = call then 1 else 0) = if other = call then 1 else 0 := by
    simpa [event, session, Session.step, Session.new] using
      congrArg (fun outcome => outcome.2.2.now) hsame
  by_cases hcalls : other = call
  · exact hcalls.symm
  · rw [if_pos rfl, if_neg hcalls] at hnow
    cases hnow

/-- A request that is turned away does not enter. -/
theorem TurnsAway.not_enters {response : Response} (h : service.TurnsAway r response) :
    ¬ service.Enters r call := by
  intro henters
  let session : Session := .new (.new [] .empty)
  have hsame := (h session fun _ => .advance 1).symm.trans (henters session fun _ => .advance 1)
  have hnow := congrArg (fun outcome => outcome.2.2.now) hsame
  simp [session, Session.step, Session.new] at hnow

/-! ## The order of the checks -/

/-- A request of a route that serves its method is answered by the route, without a body where only
the head is asked for. -/
theorem take_of_serves (hroute : Route.ofTarget? r.target = some route)
    (hserves : route.serves r.method = true) (session : Session)
    (event : ToolGateway.Request → Event) :
    service.take session r event =
      let answer := service.serve session r event route
      (if r.method = "HEAD" then answer.1.withoutBody else answer.1, answer.2) := by
  rw [take, hroute]
  dsimp only
  rw [if_pos hserves]

/-- Calls are only made by posting. -/
theorem method_of_serves_call (h : (Route.call label tool).serves r.method = true) :
    r.method = "POST" := by
  simpa [Route.serves] using h

/-- A stranger is not identified. -/
theorem identify_of_sender_eq_error {cause : AuthFailure} (h : service.sender r = .error cause) :
    service.identify r = .error (.unauthenticated "caller authentication required") := by
  rw [identify, ← sender, h]

/-- A caller who is known is. -/
theorem identify_of_sender_eq_ok {who : Identity} (h : service.sender r = .ok who) :
    service.identify r = .ok who := by
  rw [identify, ← sender, h]

/-- A stranger is turned away on every route but the sign of life. -/
theorem turnsAway_of_sender_eq_error {cause : AuthFailure}
    (hroute : Route.ofTarget? r.target = some route) (hserves : route.serves r.method = true)
    (hguarded : route ≠ .health) (h : service.sender r = .error cause) :
    service.TurnsAway r
      (if r.method = "HEAD"
        then (failureResponse (.unauthenticated "caller authentication required")).withoutBody
        else failureResponse (.unauthenticated "caller authentication required")) := by
  intro session event
  rw [take_of_serves hroute hserves]
  have hstranger := identify_of_sender_eq_error h
  cases route with
  | call label tool =>
    have haccept : service.accept r label tool =
        .error (.unauthenticated "caller authentication required") := by
      rw [accept, hstranger]
      rfl
    simp only [serve, haccept]
  | tools => simp only [serve, hstranger]
  | health => exact absurd rfl hguarded

/-- A call that is not accepted is turned away with the failure. -/
theorem turnsAway_of_accept_eq_error {failure : Failure}
    (hroute : Route.ofTarget? r.target = some (.call label tool)) (hmethod : r.method = "POST")
    (h : service.accept r label tool = .error failure) :
    service.TurnsAway r (failureResponse failure) := by
  intro session event
  have hserves : (Route.call label tool).serves r.method = true := by simp [Route.serves, hmethod]
  rw [take_of_serves hroute hserves, hmethod]
  simp [serve, h]

/-- A request enters as the call that is accepted, and only so. -/
theorem enters_iff_accept_eq_ok (hroute : Route.ofTarget? r.target = some (.call label tool))
    (hmethod : r.method = "POST") :
    service.Enters r call ↔ service.accept r label tool = .ok call := by
  have hserves : (Route.call label tool).serves r.method = true := by simp [Route.serves, hmethod]
  have henters {accepted : ToolGateway.Request} (h : service.accept r label tool = .ok accepted) :
      service.Enters r accepted := by
    intro session event
    rw [take_of_serves hroute hserves, hmethod]
    simp [serve, h]
  constructor
  · intro h
    cases haccept : service.accept r label tool with
    | error failure =>
      exact absurd h (turnsAway_of_accept_eq_error hroute hmethod haccept).not_enters
    | ok accepted => rw [(henters haccept).unique h]
  · exact henters

/-- A known caller's call is accepted if its names can be read and its body is small enough. -/
theorem accept_of_spells {who : Identity} (hwho : service.sender r = .ok who)
    {labelText toolText : String} (hlabel : Spells label labelText) (htool : Spells tool toolText) :
    service.accept r label tool =
      if service.maxBody < r.body.length then .error .tooLarge
      else .ok ⟨who.id, labelText, toolText, r.body⟩ := by
  rw [accept, identify_of_sender_eq_ok hwho, segmentText?_eq_some_iff.mpr hlabel,
    segmentText?_eq_some_iff.mpr htool]
  rfl

/-- It is not where one of the names cannot be read. -/
theorem accept_of_forall_not_spells {who : Identity} (hwho : service.sender r = .ok who)
    (h : (∀ text, ¬ Spells label text) ∨ ∀ text, ¬ Spells tool text) :
    service.accept r label tool = .error (.invalid "invalid request path") := by
  rw [accept, identify_of_sender_eq_ok hwho]
  rcases h with hlabel | htool
  · rw [segmentText?_eq_none_iff.mpr hlabel]
    rfl
  · rw [segmentText?_eq_none_iff.mpr htool]
    cases segmentText? label <;> rfl

/-- So a known caller's call is accepted under these conditions alone, and for what it is. -/
theorem accept_eq_ok_iff {who : Identity} (hwho : service.sender r = .ok who) :
    service.accept r label tool = .ok call ↔
      call.caller = who.id ∧ Spells label call.label ∧ Spells tool call.tool ∧
        call.body = r.body ∧ r.body.length ≤ service.maxBody := by
  constructor
  · intro haccept
    cases hlabel : segmentText? label with
    | none =>
      rw [accept_of_forall_not_spells hwho (Or.inl (segmentText?_eq_none_iff.mp hlabel))] at haccept
      cases haccept
    | some labelText =>
      cases htool : segmentText? tool with
      | none =>
        rw [accept_of_forall_not_spells hwho (Or.inr (segmentText?_eq_none_iff.mp htool))]
          at haccept
        cases haccept
      | some toolText =>
        rw [segmentText?_eq_some_iff] at hlabel htool
        rw [accept_of_spells hwho hlabel htool] at haccept
        split at haccept
        · cases haccept
        · next hsize =>
          cases haccept
          exact ⟨rfl, hlabel, htool, rfl, Nat.le_of_not_lt hsize⟩
  · obtain ⟨caller, labelText, toolText, body⟩ := call
    rintro ⟨rfl, hlabel, htool, rfl, hsize⟩
    rw [accept_of_spells hwho hlabel htool, if_neg (Nat.not_lt.mpr hsize)]

/-- A service listens to its callers only. Take a request of any route but the sign of life, with a
method that the route serves. If its sender is not known, it is turned away with the status 401 and
nothing but that to say, whatever else is wrong with it. If the sender is known and the request is
that of a call, it enters the gateway as a call if and only if its two names can be read and its
body is within the bound, and then as the call of this caller with these names and this body. With a
name that cannot be read it is turned away with the status 400, and else, with a body beyond the
bound, with the status 413. -/
theorem listens_to_callers_only (service : Service) (hroute : Route.ofTarget? r.target = some route)
    (hserves : route.serves r.method = true) (hguarded : route ≠ .health) :
    (∀ cause, service.callers.authenticate (some r.peer) (r.headerText? "authorization") =
        .error cause →
      service.TurnsAway r ⟨401, [("content-type", "application/json")],
        if r.method = "HEAD" then ""
        else "\x7b\"success\":false,\"error\":\x7b\"code\":\"UNAUTHENTICATED\"," ++
          "\"message\":\"caller authentication required\"\x7d\x7d"⟩) ∧
    ∀ who label tool,
      service.callers.authenticate (some r.peer) (r.headerText? "authorization") = .ok who →
      route = .call label tool →
      (∀ call, service.Enters r call ↔
        call.caller = who.id ∧ Spells label call.label ∧ Spells tool call.tool ∧
          call.body = r.body ∧ r.body.length ≤ service.maxBody) ∧
      ((∀ text, ¬ Spells label text) ∨ (∀ text, ¬ Spells tool text) →
        service.TurnsAway r ⟨400, [("content-type", "application/json")],
          "\x7b\"success\":false,\"error\":\x7b\"code\":\"INVALID_REQUEST\"," ++
            "\"message\":\"invalid request path\"\x7d\x7d"⟩) ∧
      ((∃ text, Spells label text) → (∃ text, Spells tool text) →
        service.maxBody < r.body.length →
        service.TurnsAway r ⟨413, [("content-type", "application/json")],
          "\x7b\"success\":false,\"error\":\x7b\"code\":\"PAYLOAD_TOO_LARGE\"," ++
            "\"message\":\"request body exceeds size limit\"\x7d\x7d"⟩) := by
  constructor
  · intro cause hcause
    have haway := turnsAway_of_sender_eq_error hroute hserves hguarded hcause
    rw [failureResponse_unauthenticated] at haway
    by_cases hhead : r.method = "HEAD"
    · rw [if_pos hhead] at haway ⊢
      exact haway
    · rw [if_neg hhead] at haway ⊢
      exact haway
  · rintro who label tool hwho rfl
    have hmethod := method_of_serves_call hserves
    refine ⟨fun call => ?_, fun hpath => ?_, ?_⟩
    · rw [enters_iff_accept_eq_ok hroute hmethod]
      exact accept_eq_ok_iff hwho
    · rw [← failureResponse_invalidPath]
      apply turnsAway_of_accept_eq_error hroute hmethod
      exact accept_of_forall_not_spells hwho hpath
    · rintro ⟨labelText, hlabel⟩ ⟨toolText, htool⟩ hsize
      rw [← failureResponse_tooLarge]
      apply turnsAway_of_accept_eq_error hroute hmethod
      rw [accept_of_spells hwho hlabel htool, if_pos hsize]

/-- A stranger's call whose names cannot be read and whose body is too large is turned away for the
stranger alone. From the machine itself the same call is turned away for its path, with names that
can be read for its size, and with a smaller body it enters. -/
theorem listens_to_callers_only_of_stranger :
    let service : Service := ⟨.localOnly, 2, ⟨60, Time.second, none⟩⟩
    let request (peer : IpAddress) (label : String) (body : Bytes) : Request :=
      ⟨"POST", "/mcp/v1/proxy/" ++ label ++ "/tools/echo", [], body, peer⟩
    let stranger : IpAddress := .v4 ⟨10, 1, 2, 3⟩
    let here : IpAddress := .v4 ⟨127, 0, 0, 1⟩
    service.TurnsAway (request stranger "%ff" [1, 2, 3])
        ⟨401, [("content-type", "application/json")],
          "\x7b\"success\":false,\"error\":\x7b\"code\":\"UNAUTHENTICATED\"," ++
            "\"message\":\"caller authentication required\"\x7d\x7d"⟩ ∧
      service.TurnsAway ⟨"HEAD", "/mcp/v1/tools", [], [], stranger⟩
        ⟨401, [("content-type", "application/json")], ""⟩ ∧
      service.TurnsAway (request here "%ff" [1, 2, 3])
        ⟨400, [("content-type", "application/json")],
          "\x7b\"success\":false,\"error\":\x7b\"code\":\"INVALID_REQUEST\"," ++
            "\"message\":\"invalid request path\"\x7d\x7d"⟩ ∧
      service.TurnsAway (request here "a%20b" [1, 2, 3])
        ⟨413, [("content-type", "application/json")],
          "\x7b\"success\":false,\"error\":\x7b\"code\":\"PAYLOAD_TOO_LARGE\"," ++
            "\"message\":\"request body exceeds size limit\"\x7d\x7d"⟩ ∧
      service.Enters (request here "a%20b" [1, 2]) ⟨"loopback", "a b", "echo", [1, 2]⟩ := by
  intro service request stranger here
  have hbad (peer : IpAddress) (body : Bytes) :
      Route.ofTarget? (request peer "%ff" body).target = some (.call "%ff" "echo") := by
    change Route.ofTarget? ("/mcp/v1/proxy/" ++ "%ff" ++ "/tools/echo") = _
    decide +kernel
  have hgood (body : Bytes) :
      Route.ofTarget? (request here "a%20b" body).target = some (.call "a%20b" "echo") := by
    change Route.ofTarget? ("/mcp/v1/proxy/" ++ "a%20b" ++ "/tools/echo") = _
    decide +kernel
  have hlabel : Spells "a%20b" "a b" := by decide +kernel
  have htool : Spells "echo" "echo" := by decide +kernel
  have hnone : ∀ text, ¬ Spells "%ff" text := segmentText?_eq_none_iff.mp (by decide +kernel)
  refine ⟨?_, ?_, ?_, ?_, ?_⟩
  · have h := listens_to_callers_only service (hbad stranger [1, 2, 3]) rfl (by decide)
    exact h.1 .notLoopback rfl
  · have htools : Route.ofTarget? "/mcp/v1/tools" = some .tools := by decide +kernel
    have h := listens_to_callers_only service
      (r := ⟨"HEAD", "/mcp/v1/tools", [], [], stranger⟩) htools rfl (by decide)
    exact h.1 .notLoopback rfl
  · have h := listens_to_callers_only service (hbad here [1, 2, 3]) rfl (by decide)
    exact (h.2 ⟨"loopback", none⟩ _ _ rfl rfl).2.1 (Or.inl hnone)
  · have h := listens_to_callers_only service (hgood [1, 2, 3]) rfl (by decide)
    exact (h.2 ⟨"loopback", none⟩ _ _ rfl rfl).2.2 ⟨_, hlabel⟩ ⟨_, htool⟩ (by decide)
  · have h := listens_to_callers_only service (hgood [1, 2]) rfl (by decide)
    apply ((h.2 ⟨"loopback", none⟩ _ _ rfl rfl).1 _).mpr
    exact ⟨rfl, hlabel, htool, rfl, by decide⟩

end Service

end ToolGateway.Http
