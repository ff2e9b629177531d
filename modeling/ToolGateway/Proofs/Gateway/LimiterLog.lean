import ToolGateway.Proofs.Gateway.Completion
import ToolGateway.Proofs.Limiter.CallKey
import ToolGateway.Proofs.Limiter.Grid

/-!
# What a session does to its limiter

The limiter is asked once for every call that passes the checks before it, at the time of the call
and as the caller's call to its tool of its server. Nothing else asks it, and nothing that becomes
of a call later is told to it. The attempts of a run list these calls in order, and the limiter
after the run is the one that they leave (`limiter_run`).
-/

namespace ToolGateway

/-- An attempt, as the limiter knows it. -/
def Limiter.Attempt.keyed (attempt : Limiter.Attempt Limiter.Subject) : Limiter.Attempt String :=
  ⟨attempt.key.key, attempt.time⟩

namespace Gateway

variable {g : Gateway} {s : Settings} {now : Nat} {call : Call}

/-- A call gets past the policy: its label resolves, its breaker admits it, its body is readable and
the policy lets it pass. -/
def reachesLimiter (g : Gateway) (now : Nat) (call : Call) : Bool :=
  match g.resolve call.label with
  | .error _ => false
  | .ok (_, breaker) =>
    (g.breakers.attempt call.label breaker now).1.isSome && g.passesPolicy call

/-- The limiter's answer to a call. -/
def spent (g : Gateway) (s : Settings) (now : Nat) (call : Call) : Limiter.Verdict × Limiter :=
  g.limiter.spend call.subject.key s.limit s.window now

/-- A call that begins asks the limiter if it gets past the policy. It is then refused exactly if
the limiter does not permit it, and carries the calls left to the caller if it leaves the
gateway. A call that does not get that far is rejected without a word about limits. -/
theorem start_cases (g : Gateway) (s : Settings) (now : Nat) (call : Call) :
    (g.reachesLimiter now call = false ∧ (g.start s now call).2.limiter = g.limiter ∧
        ∃ r, (g.start s now call).1 = .error r ∧ ∀ resetAfter, r ≠ .rateLimited resetAfter) ∨
      g.reachesLimiter now call = true ∧
        (g.start s now call).2.limiter = (g.spent s now call).2 ∧
        (((g.spent s now call).1.permitted = false ∧
            (g.start s now call).1 = .error (.rateLimited (g.spent s now call).1.resetAfter)) ∨
          (g.spent s now call).1.permitted = true ∧
            ((∃ r, (g.start s now call).1 = .error r ∧
                ∀ resetAfter, r ≠ .rateLimited resetAfter) ∨
              ∃ flight, (g.start s now call).1 = .ok flight ∧
                flight.remaining = (g.spent s now call).1.remaining)) := by
  unfold start reachesLimiter
  cases hresolve : g.resolve call.label with
  | error r =>
    refine Or.inl ⟨rfl, rfl, r, rfl, ?_⟩
    rcases of_resolve_eq_error hresolve with ⟨reason, rfl⟩ | rfl | rfl | rfl <;> simp
  | ok found =>
    obtain ⟨server, breaker⟩ := found
    dsimp only
    rcases g.breakers.attempt call.label breaker now with ⟨admission, breakers⟩
    cases admission with
    | none => exact Or.inl ⟨rfl, rfl, .circuitOpen, rfl, by simp⟩
    | some admission =>
      rcases g.prepare_cases s now call server with
        ⟨hpolicy, r, hprepare, hearly⟩ | ⟨hpolicy, hrefused, hprepare⟩ |
        ⟨hpolicy, hpermitted, ⟨r, hopen, hprepare⟩ | ⟨request, hprepare⟩⟩
      · refine Or.inl ⟨hpolicy, ?_⟩
        rw [hprepare]
        refine ⟨rfl, r, rfl, ?_⟩
        rcases hearly with rfl | ⟨cause, rfl⟩ | ⟨tier, rfl⟩ <;> simp
      · refine Or.inr ⟨hpolicy, ?_⟩
        simp only [hprepare]
        exact ⟨rfl, Or.inl ⟨hrefused, rfl⟩⟩
      · refine Or.inr ⟨hpolicy, ?_⟩
        simp only [hprepare]
        refine ⟨rfl, Or.inr ⟨hpermitted, Or.inl ⟨r, rfl, ?_⟩⟩⟩
        rcases of_openCredential_eq_error hopen with rfl | rfl | ⟨cause, rfl⟩ <;> simp
      · refine Or.inr ⟨hpolicy, ?_⟩
        simp only [hprepare]
        exact ⟨rfl, Or.inr ⟨hpermitted, Or.inr ⟨_, rfl, rfl⟩⟩⟩

end Gateway

namespace Session

variable {s : Gateway.Settings} {session : Session}

/-- The attempt that an event makes: a call that gets past the policy. -/
def attempt? (session : Session) (event : Event) : Option (Limiter.Attempt Limiter.Subject) :=
  match event.request?.map Request.toCall with
  | some (.ok call) =>
    if session.gateway.reachesLimiter session.now call then some ⟨call.subject, session.now⟩
    else none
  | _ => none

/-- The attempts of a run, in order. -/
def attempts (s : Gateway.Settings) (session : Session) :
    List Event → List (Limiter.Attempt Limiter.Subject)
  | [] => []
  | event :: events =>
    (session.attempt? event).toList ++ (session.step s event).2.attempts s events

/-- The attempts of a run that goes on. -/
theorem attempts_append (session : Session) (events more : List Event) :
    session.attempts s (events ++ more) =
      session.attempts s events ++ (session.run s events).2.attempts s more := by
  induction events generalizing session with
  | nil => rfl
  | cons event events ih =>
    rw [List.cons_append, attempts, attempts, ih, List.append_assoc, run_cons_snd]

/-- An attempt is made at the time of its event, by a call that gets past the policy. -/
theorem attempt?_eq_some_iff {event : Event} {attempt : Limiter.Attempt Limiter.Subject} :
    session.attempt? event = some attempt ↔
      ∃ request call, event.request? = some request ∧ request.toCall = .ok call ∧
        session.gateway.reachesLimiter session.now call = true ∧
        attempt = ⟨call.subject, session.now⟩ := by
  unfold attempt?
  cases event.request? with
  | none => simp
  | some request =>
    rw [Option.map_some]
    cases hcall : request.toCall with
    | error failure => simp [hcall]
    | ok call => simp [hcall, eq_comm (b := attempt)]

/-! ## The limiter of a run -/

/-- A call that begins tells the limiter its attempt. -/
theorem limiter_start {event : Event} {request : Request} {call : Call}
    (hrequest : event.request? = some request) (hcall : request.toCall = .ok call) :
    (session.gateway.start s session.now call).2.limiter =
      session.gateway.limiter.spendAll s.limit s.window
        ((session.attempt? event).toList.map Limiter.Attempt.keyed) := by
  rw [attempt?, hrequest, Option.map_some, hcall]
  rcases session.gateway.start_cases s session.now call with
    ⟨hreaches, hlimiter, -⟩ | ⟨hreaches, hlimiter, -⟩ <;> rw [hlimiter] <;> simp only [hreaches]
  · rfl
  · rfl

/-- A call that ends tells it nothing. -/
theorem limiter_finishCall (session : Session) (forwarded : List Outgoing) (flight : InFlight)
    (reply : Reply) (reading : Reading) :
    (session.finishCall s forwarded flight reply reading).2.gateway.limiter =
      session.gateway.limiter := by
  obtain ⟨breakers, h⟩ := session.gateway.finish_snd session.now flight reply
  rw [finishCall_snd, h]

/-- The event of a call leaves the limiter as its attempt does, if nothing that happens to a call
that left the gateway touches it. -/
theorem limiter_startCall {event : Event} {request : Request} (reading : Reading)
    {goOn : Session → InFlight → Effects × Session} (hrequest : event.request? = some request)
    (hgoOn : ∀ session flight, (goOn session flight).2.gateway.limiter = session.gateway.limiter) :
    (session.startCall s request reading goOn).2.gateway.limiter =
      session.gateway.limiter.spendAll s.limit s.window
        ((session.attempt? event).toList.map Limiter.Attempt.keyed) := by
  rcases startCall_cases (s := s) session request reading goOn with
    ⟨failure, hcall, h⟩ | ⟨call, r, hcall, -, h⟩ | ⟨call, flight, hcall, -, h⟩ <;> rw [h]
  · rw [attempt?, hrequest, Option.map_some, hcall]
    rfl
  · exact limiter_start hrequest hcall
  · rw [hgoOn]
    exact limiter_start hrequest hcall

/-- Every event leaves the limiter as its attempt does. -/
theorem limiter_step (session : Session) (event : Event) :
    (session.step s event).2.gateway.limiter =
      session.gateway.limiter.spendAll s.limit s.window
        ((session.attempt? event).toList.map Limiter.Attempt.keyed) := by
  cases event with
  | call request reply reading =>
    rw [step]
    exact limiter_startCall reading rfl fun _ _ => limiter_finishCall _ _ _ _ _
  | start id request reading =>
    rw [step]
    exact limiter_startCall reading rfl fun _ _ => rfl
  | finish id reply reading =>
    rw [step_finish]
    cases session.pending.get? id with
    | none => rfl
    | some flight => exact limiter_finishCall _ _ _ _ _
  | drop id =>
    rw [step_drop]
    cases session.pending.get? id <;> rfl
  | _ => rfl

/-- The limiter after a run is the one that the attempts of the run leave. -/
theorem limiter_run (session : Session) (events : List Event) :
    (session.run s events).2.gateway.limiter =
      session.gateway.limiter.spendAll s.limit s.window
        ((session.attempts s events).map Limiter.Attempt.keyed) := by
  induction events generalizing session with
  | nil => rfl
  | cons event events ih =>
    rw [run_cons_snd, ih, limiter_step, attempts, List.map_append]
    exact (List.foldl_append).symm

/-! ## The order of attempts -/

/-- The attempts of a run are made while it lasts. -/
theorem time_of_mem_attempts {events : List Event} {attempt : Limiter.Attempt Limiter.Subject}
    (h : attempt ∈ session.attempts s events) :
    session.now ≤ attempt.time ∧ attempt.time ≤ (session.run s events).2.now := by
  induction events generalizing session with
  | nil => cases h
  | cons event events ih =>
    have hstep := now_step (s := s) session event
    rw [run_cons_snd]
    rcases List.mem_append.mp h with hfirst | hrest
    · obtain ⟨_, _, -, -, -, rfl⟩ := attempt?_eq_some_iff.mp (Option.mem_toList.mp hfirst)
      have := now_le_run (s := s) (session.step s event).2 events
      dsimp only
      omega
    · have := ih hrest
      omega

/-- The attempts of a run come one after the other. -/
theorem pairwise_attempts (session : Session) (events : List Event) :
    (session.attempts s events).Pairwise (·.time ≤ ·.time) := by
  induction events generalizing session with
  | nil => exact List.Pairwise.nil
  | cons event events ih =>
    refine List.pairwise_append.mpr ⟨?_, ih _, ?_⟩
    · cases session.attempt? event <;> simp
    · intro first hfirst attempt hattempt
      obtain ⟨_, _, -, -, -, rfl⟩ := attempt?_eq_some_iff.mp (Option.mem_toList.mp hfirst)
      have hlater := (time_of_mem_attempts hattempt).1
      rw [now_step] at hlater
      exact Nat.le_of_add_right_le hlater

/-! ## The grid of a run -/

section

open Limiter

/-- A run from a fresh limiter leaves every window on the grid of its attempts. -/
theorem onGrid_run (hwindow : 0 < s.window) (hbound : s.window < UInt64.size)
    (hfresh : session.gateway.limiter = []) (events : List Event) :
    OnGrid s.limit s.window (session.run s events).2.gateway.limiter
      ((session.attempts s events).map Attempt.keyed) := by
  rw [limiter_run, hfresh]
  apply onGrid_spendAll s.limit hwindow hbound
  exact List.pairwise_map.mpr (pairwise_attempts session events)

/-- In such a run an attempt is judged by those before it that have its key. -/
theorem judged_by_key (hwindow : 0 < s.window) (hbound : s.window < UInt64.size)
    (hfresh : session.gateway.limiter = []) {events : List Event} {event : Event}
    {subject : Subject} {now : Nat}
    (hattempt : (session.run s events).2.attempt? event = some ⟨subject, now⟩) :
    Judged s.limit s.window
      (timesOf subject.key ((session.attempts s events).map Attempt.keyed)) now
      ((session.run s events).2.gateway.limiter.spend subject.key s.limit s.window now).1 := by
  have htimes : ((session.attempts s events).map Attempt.keyed ++
      [(⟨subject.key, now⟩ : Attempt String)]).Pairwise (·.time ≤ ·.time) := by
    have horder : ((session.attempts s (events ++ [event])).map Attempt.keyed).Pairwise
        (·.time ≤ ·.time) := List.pairwise_map.mpr (pairwise_attempts session _)
    rw [attempts_append, attempts, hattempt, List.map_append] at horder
    exact horder
  exact (spend_of_onGrid hwindow hbound (onGrid_run hwindow hbound hfresh events) htimes).1

end

end Session

end ToolGateway
