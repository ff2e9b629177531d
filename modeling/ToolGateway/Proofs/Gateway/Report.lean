import ToolGateway.Proofs.Gateway.Completion

/-!
# What an event tells and records

The caller of a call is told how it ended, and the audit log gets a record of it, at one and the
same event: the one that rejects the call, or the one that completes it. `report_cases` lists all
that an event can tell and record, so that no later proof looks at the events one by one.
-/

namespace ToolGateway

namespace Gateway

/-- What the caller gets for the reply to a call that left the gateway. -/
def resultOf (s : Settings) (flight : InFlight) (reply : Reply) (reading : Reading) :
    Except Failure Output :=
  match reply with
  | .ok answer => .ok (outputOf s flight answer reading)
  | .error cause => .error (Rejection.delivery cause).failure

/-- The record of a call that left the gateway and was replied to. -/
def entryOf (flight : InFlight) (reply : Reply) (reading : Reading) : Audit.Entry :=
  match reply with
  | .ok answer => answeredEntry flight.call answer reading
  | .error cause => rejectedEntry flight.call (.delivery cause) reading

end Gateway

namespace Session

variable {s : Gateway.Settings} {session : Session} {event : Event} {request : Request}

/-- A call without names is turned away, and nothing else happens. -/
theorem step_of_toCall_eq_error {failure : Failure} (hrequest : event.request? = some request)
    (hcall : request.toCall = .error failure) :
    session.step s event = (⟨[], [], .result (.error failure)⟩, session) := by
  cases event with
  | call _ reply reading =>
    cases hrequest
    rw [step, startCall, hcall]
  | start id _ reading =>
    cases hrequest
    rw [step, startCall, hcall]
  | _ => cases hrequest

/-- A call that is rejected is told and recorded at once. -/
theorem step_of_start_eq_error {call : Call} {r : Rejection}
    (hrequest : event.request? = some request) (hcall : request.toCall = .ok call)
    (hstart : (session.gateway.start s session.now call).1 = .error r) :
    ∃ reading, session.step s event = (rejected [] call r reading,
      { session with gateway := (session.gateway.start s session.now call).2 }) := by
  cases event with
  | call _ reply reading =>
    cases hrequest
    exact ⟨reading, by rw [step, startCall_of_error hcall hstart]⟩
  | start id _ reading =>
    cases hrequest
    exact ⟨reading, by rw [step, startCall_of_error hcall hstart]⟩
  | _ => cases hrequest

/-- A call that ends is told and recorded once, by its reply. -/
theorem finishCall_fst (session : Session) (forwarded : List Outgoing) (flight : InFlight)
    (reply : Reply) (reading : Reading) :
    (session.finishCall s forwarded flight reply reading).1 =
      ⟨forwarded, [Gateway.entryOf flight reply reading],
        .result (Gateway.resultOf s flight reply reading)⟩ := by
  unfold finishCall Gateway.finish
  cases reply <;> rfl

/-- A request whose call does not leave is turned away or rejected at once. -/
theorem report_of_left?_eq_none (hrequest : event.request? = some request)
    (hleft : session.left? s request = none) :
    (∃ failure, request.toCall = .error failure ∧
        (session.step s event).1 = ⟨[], [], .result (.error failure)⟩) ∨
      ∃ call r reading, request.toCall = .ok call ∧
        (session.gateway.start s session.now call).1 = .error r ∧
        (session.step s event).1 = rejected [] call r reading := by
  cases hcall : request.toCall with
  | error failure =>
    exact Or.inl ⟨failure, rfl, by rw [step_of_toCall_eq_error hrequest hcall]⟩
  | ok call =>
    cases hstart : (session.gateway.start s session.now call).1 with
    | error r =>
      obtain ⟨reading, h⟩ := step_of_start_eq_error hrequest hcall hstart
      exact Or.inr ⟨call, r, reading, rfl, hstart, by rw [h]⟩
    | ok flight =>
      rw [left?_eq_some_iff.mpr ⟨call, hcall, hstart⟩] at hleft
      cases hleft

/-- A call that is completed is told and recorded by its reply. -/
theorem report_of_completes {flight : InFlight} {reply : Reply}
    (h : session.completes s event = some (flight, reply)) :
    ∃ reading, (session.step s event).1.audited = [Gateway.entryOf flight reply reading] ∧
      (session.step s event).1.told = .result (Gateway.resultOf s flight reply reading) := by
  cases event with
  | call request replyOf reading =>
    obtain ⟨flight', hleft, heq⟩ := Option.map_eq_some_iff.mp h
    cases heq
    obtain ⟨call, hcall, hstart⟩ := left?_eq_some_iff.mp hleft
    refine ⟨reading, ?_⟩
    rw [step, startCall_of_ok hcall hstart, finishCall_fst]
    exact ⟨rfl, rfl⟩
  | finish id replyOf reading =>
    obtain ⟨flight', hwaits, heq⟩ := Option.map_eq_some_iff.mp h
    cases heq
    refine ⟨reading, ?_⟩
    rw [step_finish, hwaits, Option.elim_some, finishCall_fst]
    exact ⟨rfl, rfl⟩
  | _ => cases h

/-- All that an event can tell and record: a call without names is turned away unrecorded, a call is
rejected, a call is completed by its reply, or no call ends. -/
theorem report_cases (session : Session) (event : Event) :
    let effects := (session.step s event).1
    (∃ request failure, event.request? = some request ∧ request.toCall = .error failure ∧
        effects = ⟨[], [], .result (.error failure)⟩) ∨
      (∃ request call r reading, event.request? = some request ∧ request.toCall = .ok call ∧
        (session.gateway.start s session.now call).1 = .error r ∧
        effects = rejected [] call r reading) ∨
      (∃ flight reply reading, session.completes s event = some (flight, reply) ∧
        effects.audited = [Gateway.entryOf flight reply reading] ∧
        effects.told = .result (Gateway.resultOf s flight reply reading)) ∨
      session.completes s event = none ∧ effects.audited = [] ∧
        ∀ result, effects.told ≠ .result result := by
  intro effects
  cases hrequest : event.request? with
  | some request =>
    cases hleft : session.left? s request with
    | none =>
      rcases report_of_left?_eq_none hrequest hleft with ⟨failure, h⟩ | ⟨call, r, reading, h⟩
      · exact Or.inl ⟨request, failure, rfl, h⟩
      · exact Or.inr (Or.inl ⟨request, call, r, reading, rfl, h⟩)
    | some flight =>
      obtain ⟨call, hcall, hstart⟩ := left?_eq_some_iff.mp hleft
      refine Or.inr (Or.inr ?_)
      cases event with
      | call _ reply reading =>
        cases hrequest
        have hcompletes : session.completes s (.call request reply reading) =
            some (flight, reply flight.request) := by
          rw [completes, hleft, Option.map_some]
        obtain ⟨reading', hreport⟩ := report_of_completes hcompletes
        exact Or.inl ⟨flight, _, reading', hcompletes, hreport⟩
      | start id _ reading =>
        cases hrequest
        dsimp only [effects]
        rw [step_start_of_ok hcall hstart]
        exact Or.inr ⟨rfl, rfl, by simp⟩
      | _ => cases hrequest
  | none =>
    refine Or.inr (Or.inr ?_)
    cases event with
    | finish id reply reading =>
      cases hwaits : session.pending.get? id with
      | none =>
        dsimp only [effects]
        rw [step_finish, completes, hwaits]
        exact Or.inr ⟨rfl, rfl, by simp⟩
      | some flight =>
        have hcompletes : session.completes s (.finish id reply reading) =
            some (flight, reply flight.request) := by
          rw [completes, hwaits, Option.map_some]
        obtain ⟨reading', hreport⟩ := report_of_completes hcompletes
        exact Or.inl ⟨flight, _, reading', hcompletes, hreport⟩
    | drop id =>
      dsimp only [effects]
      rw [step_drop]
      cases session.pending.get? id <;> exact Or.inr ⟨rfl, rfl, by simp⟩
    | call => cases hrequest
    | start => cases hrequest
    | _ => exact Or.inr ⟨rfl, rfl, by simp [effects, step, quiet]⟩

/-- The caller of a rejected call is told why. -/
theorem told_of_start_eq_error {call : Call} {r : Rejection}
    (hrequest : event.request? = some request) (hcall : request.toCall = .ok call)
    (hstart : (session.gateway.start s session.now call).1 = .error r) :
    (session.step s event).1.told = .result (.error r.failure) := by
  obtain ⟨reading, hstep⟩ := step_of_start_eq_error hrequest hcall hstart
  rw [hstep]
  rfl

/-- A failure that no reply brings is told at the event of the request itself: for want of a name,
or because the call is rejected. -/
theorem of_told_error {failure : Failure}
    (hreply : ∀ cause, (Rejection.delivery cause).failure ≠ failure)
    (htold : (session.step s event).1.told = .result (.error failure)) :
    ∃ request, event.request? = some request ∧
      (request.toCall = .error failure ∨
        ∃ call r, request.toCall = .ok call ∧
          (session.gateway.start s session.now call).1 = .error r ∧ r.failure = failure) := by
  rcases report_cases (s := s) session event with
    ⟨request, failure', hrequest, hcall, h⟩ |
    ⟨request, call, r, reading, hrequest, hcall, hstart, h⟩ |
    ⟨flight, reply, reading, -, -, h⟩ | ⟨-, -, h⟩
  · rw [h] at htold
    obtain rfl : failure' = failure := by simpa using htold
    exact ⟨request, hrequest, Or.inl hcall⟩
  · rw [h] at htold
    exact ⟨request, hrequest, Or.inr ⟨call, r, hcall, hstart, by simpa [rejected] using htold⟩⟩
  · rw [h] at htold
    cases reply with
    | ok answer => simp [Gateway.resultOf] at htold
    | error cause => exact absurd (by simpa [Gateway.resultOf] using htold) (hreply cause)
  · exact absurd htold (h _)

/-- So the caller of a call is told such a failure exactly if the call is rejected with it. -/
theorem told_error_iff {call : Call} {failure : Failure} (hrequest : event.request? = some request)
    (hcall : request.toCall = .ok call)
    (hreply : ∀ cause, (Rejection.delivery cause).failure ≠ failure) :
    (session.step s event).1.told = .result (.error failure) ↔
      ∃ r, (session.gateway.start s session.now call).1 = .error r ∧ r.failure = failure := by
  constructor
  · intro htold
    obtain ⟨request', hrequest', h⟩ := of_told_error hreply htold
    obtain rfl : request = request' := Option.some.inj (hrequest.symm.trans hrequest')
    rcases h with h | ⟨call', r, hcall', hstart, hfailure⟩
    · rw [hcall] at h
      cases h
    · obtain rfl : call = call' := Except.ok.inj (hcall.symm.trans hcall')
      exact ⟨r, hstart, hfailure⟩
  · rintro ⟨r, hstart, rfl⟩
    exact told_of_start_eq_error hrequest hcall hstart

/-- A caller is told that the tool server is kept from calls if and only if the breaker refused the
call. -/
theorem told_unavailable_iff {call : Call} (hrequest : event.request? = some request)
    (hcall : request.toCall = .ok call) :
    (∃ message, (session.step s event).1.told = .result (.error (.unavailable message))) ↔
      (session.gateway.start s session.now call).1 = .error .circuitOpen := by
  constructor
  · rintro ⟨message, htold⟩
    have hreply (cause : DeliveryFailure) :
        (Rejection.delivery cause).failure ≠ .unavailable message := by
      cases cause <;> simp [Rejection.failure]
    obtain ⟨r, hstart, hfailure⟩ := (told_error_iff hrequest hcall hreply).mp htold
    unfold Rejection.failure at hfailure
    split at hfailure <;> first | exact hstart | cases hfailure
  · intro hstart
    exact ⟨_, told_of_start_eq_error hrequest hcall hstart⟩

end Session

end ToolGateway
