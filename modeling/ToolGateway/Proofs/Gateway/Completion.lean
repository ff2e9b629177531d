import ToolGateway.Proofs.Gateway.Mediation

/-!
# How calls end

A call that left the gateway is completed by its reply, at once or at a later event. A call that
waits may also be given up: its caller goes away, or starts another call under its name. The
functions here follow a run and list the calls that were completed, with their replies, and find
the event at which a call stopped waiting.
-/

namespace ToolGateway.Session

variable {s : Gateway.Settings} {session : Session}

/-- The call of a request, once it left the gateway. -/
def left? (s : Gateway.Settings) (session : Session) (request : Request) : Option InFlight :=
  match request.toCall with
  | .error _ => none
  | .ok call => (session.gateway.start s session.now call).1.toOption

/-- The call that an event completes, with the reply to it. -/
def completes (s : Gateway.Settings) (session : Session) : Event → Option (InFlight × Reply)
  | .call request reply _ =>
    (session.left? s request).map fun flight => (flight, reply flight.request)
  | .finish id reply _ =>
    (session.pending.get? id).map fun flight => (flight, reply flight.request)
  | _ => none

/-- The calls that are completed in a run, with their replies, in this order. -/
def completions (s : Gateway.Settings) (session : Session) : List Event → List (InFlight × Reply)
  | [] => []
  | event :: events =>
    (session.completes s event).toList ++ (session.step s event).2.completions s events

/-- Whether the call that waits under the name `id` waits no longer after an event: it is
completed, its caller goes away, or another call takes its name. -/
def ends (s : Gateway.Settings) (session : Session) (id : String) : Event → Bool
  | .start id' request _ => id' = id ∧ (session.left? s request).isSome
  | .finish id' _ _ => id' = id
  | .drop id' => id' = id
  | _ => false

/-- The first of some events after which the call that waits under the name `id` waits no
longer. -/
def ending? (s : Gateway.Settings) (id : String) (session : Session) : List Event → Option Event
  | [] => none
  | event :: events =>
    if session.ends s id event then some event else ending? s id (session.step s event).2 events

/-- A call left the gateway if its names are not blank and it passed all checks. -/
theorem left?_eq_some_iff {request : Request} {flight : InFlight} :
    session.left? s request = some flight ↔
      ∃ call, request.toCall = .ok call ∧
        (session.gateway.start s session.now call).1 = .ok flight := by
  unfold left?
  cases request.toCall with
  | error failure => simp
  | ok call =>
    cases hstart : (session.gateway.start s session.now call).1 with
    | error r => simp [Except.toOption, hstart]
    | ok flight' => simp [Except.toOption, hstart]

/-- A call goes on waiting through an event that does not end this. -/
theorem pending_step_of_not_ends {event : Event} {id : String}
    (h : session.ends s id event = false) :
    (session.step s event).2.pending.get? id = session.pending.get? id := by
  by_cases hnames : event.names id
  · cases event with
    | start id' request reading =>
      obtain rfl : id' = id := hnames
      have hstays : session.left? s request = none := by simpa [ends] using h
      rw [step]
      rcases startCall_cases (s := s) session request reading _ with
        ⟨failure, -, h'⟩ | ⟨call, r, -, -, h'⟩ | ⟨call, flight, hcall, hstart, h'⟩
      · rw [h']
      · rw [h']
      · rw [left?_eq_some_iff.mpr ⟨call, hcall, hstart⟩] at hstays
        contradiction
    | finish id' reply reading =>
      have hother : ¬ id' = id := by simpa [ends] using h
      exact absurd hnames hother
    | drop id' =>
      have hother : ¬ id' = id := by simpa [ends] using h
      exact absurd hnames hother
    | _ => exact hnames.elim
  · exact pending_step_of_not_names hnames

/-- A call whose waiting no event ended still waits. -/
theorem pending_run_of_ending?_eq_none {events : List Event} {id : String}
    (h : session.ending? s id events = none) :
    (session.run s events).2.pending.get? id = session.pending.get? id := by
  induction events generalizing session with
  | nil => rfl
  | cons event events ih =>
    rw [ending?] at h
    cases hends : session.ends s id event with
    | true => simp [hends] at h
    | false =>
      rw [hends, if_neg Bool.false_ne_true] at h
      rw [run_cons_snd, ih h, pending_step_of_not_ends hends]

/-- The waiting of a call ends at the first event that ends it, whatever comes behind. -/
theorem ending?_append (events more : List Event) (id : String) :
    session.ending? s id (events ++ more) =
      (session.ending? s id events).or ((session.run s events).2.ending? s id more) := by
  induction events generalizing session with
  | nil => rfl
  | cons event events ih =>
    rw [List.cons_append, ending?, ending?, run_cons_snd]
    cases session.ends s id event with
    | true => rfl
    | false => exact ih

end ToolGateway.Session
