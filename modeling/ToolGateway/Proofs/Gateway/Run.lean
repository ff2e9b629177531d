import ToolGateway.Proofs.Gateway.Checks

/-!
# Time and waiting calls in a run

A run takes its events one after the other. The events of calls touch breakers, limiter and
waiting calls alone, time never goes back, and a call waits from the event that starts it until an
event that names it.
-/

namespace ToolGateway

/-- Whether an event names a waiting call: it starts, finishes or drops a call of this name. -/
def Event.names (id : String) : Event → Prop
  | .start id' _ _ => id' = id
  | .finish id' _ _ => id' = id
  | .drop id' => id' = id
  | _ => False

/-- Whether an event belongs to a call. -/
def Event.isOfCall : Event → Bool
  | .call _ _ _ => true
  | .start _ _ _ => true
  | .finish _ _ _ => true
  | .drop _ => true
  | _ => false

namespace Session

variable {s : Gateway.Settings} {session : Session}

/-- A run goes on after its first event. -/
theorem run_cons_snd (event : Event) (events : List Event) :
    (session.run s (event :: events)).2 = ((session.step s event).2.run s events).2 := rfl

/-- A run has the effects of each of its events. -/
theorem length_run_fst (session : Session) (events : List Event) :
    (session.run s events).1.length = events.length := by
  induction events generalizing session with
  | nil => rfl
  | cons event events ih => exact congrArg (· + 1) (ih _)

/-- A run may be cut anywhere: its effects are those of its parts. -/
theorem run_append (session : Session) (events more : List Event) :
    session.run s (events ++ more) =
      ((session.run s events).1 ++ ((session.run s events).2.run s more).1,
        ((session.run s events).2.run s more).2) := by
  induction events generalizing session with
  | nil => rfl
  | cons event events ih =>
    simp only [List.cons_append, run, ih]

/-! ## Positions -/

/-- The session that a run has reached before the event at a position. -/
def reach (s : Gateway.Settings) (session : Session) (events : List Event) (i : Nat) : Session :=
  (session.run s (events.take i)).2

variable {events : List Event} {i : Nat}

/-- Behind its last event a run has reached its end. -/
theorem reach_of_length_le (h : events.length ≤ i) :
    session.reach s events i = (session.run s events).2 := by
  rw [reach, List.take_of_length_le h]

/-- An event takes a run from its position to the next one. -/
theorem reach_succ {event : Event} (h : events[i]? = some event) :
    session.reach s events (i + 1) = ((session.reach s events i).step s event).2 := by
  rw [reach, List.take_add_one, h, run_append]
  rfl

/-- What all events before a position keep holds there. -/
theorem reach_induction {P : Session → Prop} (h : P session)
    (hstep : ∀ (session : Session), ∀ event ∈ events.take i, P session →
      P (session.step s event).2) : P (session.reach s events i) := by
  unfold reach
  generalize events.take i = earlier at hstep
  induction earlier generalizing session with
  | nil => exact h
  | cons event earlier ih =>
    rw [run_cons_snd]
    exact ih (hstep session event List.mem_cons_self h) fun later e he =>
      hstep later e (List.mem_cons_of_mem _ he)

/-- What an event of a run gives rise to depends on the session reached before it. -/
theorem getElem?_run_fst (session : Session) (events : List Event) (i : Nat) :
    (session.run s events).1[i]? =
      events[i]?.map fun event => ((session.reach s events i).step s event).1 := by
  induction events generalizing session i with
  | nil => rfl
  | cons event events ih =>
    cases i with
    | zero => rfl
    | succ i => exact ih _ i

/-- What holds at a position of a run and not at its beginning was brought about by an event before
the position, and all events between kept it. -/
theorem exists_cause {P : Session → Prop} {C K : Session → Event → Prop}
    (hstep : ∀ (session : Session) (event : Event), P (session.step s event).2 →
      C session event ∨ P session ∧ K session event)
    (hbegin : ¬ P session) {j : Nat} (h : P (session.reach s events j)) :
    ∃ i event, i < j ∧ events[i]? = some event ∧ C (session.reach s events i) event ∧
      ∀ k next, i < k → k < j → events[k]? = some next →
        P (session.reach s events k) ∧ K (session.reach s events k) next := by
  induction j with
  | zero => exact absurd h hbegin
  | succ j ih =>
    cases hlast : events[j]? with
    | none =>
      have hend : events.length ≤ j := List.getElem?_eq_none_iff.mp hlast
      rw [reach_of_length_le (Nat.le_succ_of_le hend), ← reach_of_length_le hend] at h
      obtain ⟨i, event, hij, hevent, hcause, hkept⟩ := ih h
      refine ⟨i, event, Nat.lt_succ_of_lt hij, hevent, hcause, fun k next hik hkj hnext => ?_⟩
      rcases Nat.lt_succ_iff_lt_or_eq.mp hkj with hkj | rfl
      · exact hkept k next hik hkj hnext
      · rw [hlast] at hnext
        cases hnext
    | some last =>
      rw [reach_succ hlast] at h
      rcases hstep _ last h with hcause | ⟨hbefore, hkeeps⟩
      · exact ⟨j, last, Nat.lt_succ_self j, hlast, hcause, fun k _ hjk hkj => by omega⟩
      · obtain ⟨i, event, hij, hevent, hcause, hkept⟩ := ih hbefore
        refine ⟨i, event, Nat.lt_succ_of_lt hij, hevent, hcause, fun k next hik hkj hnext => ?_⟩
        rcases Nat.lt_succ_iff_lt_or_eq.mp hkj with hkj | rfl
        · exact hkept k next hik hkj hnext
        · rw [hlast] at hnext
          cases hnext
          exact ⟨hbefore, hkeeps⟩

/-! ## What an event does

A call that begins is turned away, rejected or goes on, and a reply answers a call that waits or
finds none. -/

/-- A call that does not leave the gateway is rejected. -/
theorem startCall_of_error {session : Session} {request : Request} {call : Call} {r : Rejection}
    (hcall : request.toCall = .ok call)
    (hstart : (session.gateway.start s session.now call).1 = .error r) (reading : Reading)
    (goOn : Session → InFlight → Effects × Session) :
    session.startCall s request reading goOn = (rejected [] call r reading,
      { session with gateway := (session.gateway.start s session.now call).2 }) := by
  simp only [startCall, hcall]
  rcases hstarted : session.gateway.start s session.now call with ⟨outcome, gateway⟩
  rw [hstarted] at hstart
  dsimp only at hstart
  subst hstart
  rfl

/-- A call that leaves it goes on. -/
theorem startCall_of_ok {session : Session} {request : Request} {call : Call} {flight : InFlight}
    (hcall : request.toCall = .ok call)
    (hstart : (session.gateway.start s session.now call).1 = .ok flight) (reading : Reading)
    (goOn : Session → InFlight → Effects × Session) :
    session.startCall s request reading goOn =
      goOn { session with gateway := (session.gateway.start s session.now call).2 } flight := by
  simp only [startCall, hcall]
  rcases hstarted : session.gateway.start s session.now call with ⟨outcome, gateway⟩
  rw [hstarted] at hstart
  dsimp only at hstart
  subst hstart
  rfl

/-- The three ways in which a call begins. -/
theorem startCall_cases (session : Session) (request : Request) (reading : Reading)
    (goOn : Session → InFlight → Effects × Session) :
    (∃ failure, request.toCall = .error failure ∧
        session.startCall s request reading goOn =
          (⟨[], [], .result (.error failure)⟩, session)) ∨
      (∃ call r, request.toCall = .ok call ∧
        (session.gateway.start s session.now call).1 = .error r ∧
        session.startCall s request reading goOn = (rejected [] call r reading,
          { session with gateway := (session.gateway.start s session.now call).2 })) ∨
      ∃ call flight, request.toCall = .ok call ∧
        (session.gateway.start s session.now call).1 = .ok flight ∧
        session.startCall s request reading goOn =
          goOn { session with gateway := (session.gateway.start s session.now call).2 } flight := by
  cases hcall : request.toCall with
  | error failure => exact Or.inl ⟨failure, rfl, by rw [startCall, hcall]⟩
  | ok call =>
    right
    cases hstart : (session.gateway.start s session.now call).1 with
    | error r => exact Or.inl ⟨call, r, rfl, hstart, startCall_of_error hcall hstart reading goOn⟩
    | ok flight => exact Or.inr ⟨call, flight, rfl, hstart, startCall_of_ok hcall hstart reading goOn⟩

/-- A call that ends changes the gateway alone. -/
theorem finishCall_snd (session : Session) (forwarded : List Outgoing) (flight : InFlight)
    (reply : Reply) (reading : Reading) :
    (session.finishCall s forwarded flight reply reading).2 =
      { session with gateway := (session.gateway.finish session.now flight reply).2 } := by
  unfold finishCall
  rcases session.gateway.finish session.now flight reply with ⟨outcome, gateway⟩
  cases outcome <;> rfl

/-- A call that left the gateway waits. -/
theorem step_start_of_ok {session : Session} {request : Request} {call : Call} {flight : InFlight}
    (hcall : request.toCall = .ok call)
    (hstart : (session.gateway.start s session.now call).1 = .ok flight) (id : String)
    (reading : Reading) :
    session.step s (.start id request reading) = (⟨[flight.request], [], .waiting⟩,
      { session with
        gateway := (session.gateway.start s session.now call).2
        pending := Table.insert session.pending id flight }) := by
  rw [step, startCall_of_ok hcall hstart]

/-- A reply finds the call that waits for it, or nothing happens. -/
theorem step_finish (session : Session) (id : String) (reply : Outgoing → Reply)
    (reading : Reading) :
    session.step s (.finish id reply reading) =
      (session.pending.get? id).elim (⟨[], [], .unknown⟩, session) fun flight =>
        { session with pending := session.pending.erase id }.finishCall s [] flight
          (reply flight.request) reading := by
  simp only [step]
  cases session.pending.get? id <;> rfl

/-- A caller that goes away leaves a call that waits, or nothing happens. -/
theorem step_drop (session : Session) (id : String) :
    session.step s (.drop id) =
      (session.pending.get? id).elim (⟨[], [], .unknown⟩, session) fun _ =>
        (⟨[], [], .dropped⟩, { session with pending := session.pending.erase id }) := by
  simp only [step]
  cases session.pending.get? id <;> rfl

/-! ## What calls leave alone -/

/-- Two sessions differ at most in breakers, limiter and waiting calls. -/
def SameFrame (session session' : Session) : Prop :=
  ∃ breakers limiter pending, session' =
    { session with gateway := { session.gateway with breakers, limiter }, pending }

/-- The beginning of a call changes nothing else. -/
theorem sameFrame_start (session : Session) (call : Call) :
    session.SameFrame { session with
      gateway := (session.gateway.start s session.now call).2 } := by
  obtain ⟨breakers, limiter, h⟩ := session.gateway.start_snd s session.now call
  exact ⟨breakers, limiter, session.pending, by rw [h]⟩

/-- The end of a call changes nothing else. -/
theorem sameFrame_finishCall {before : Session} (h : before.SameFrame session)
    (forwarded : List Outgoing) (flight : InFlight) (reply : Reply) (reading : Reading) :
    before.SameFrame (session.finishCall s forwarded flight reply reading).2 := by
  obtain ⟨breakers, limiter, pending, rfl⟩ := h
  obtain ⟨breakers', h⟩ := Gateway.finish_snd
    { before.gateway with breakers, limiter } before.now flight reply
  exact ⟨breakers', limiter, pending, by rw [finishCall_snd, h]⟩

/-- An event of a call changes nothing else. -/
theorem sameFrame_step (session : Session) {event : Event} (h : event.isOfCall = true) :
    session.SameFrame (session.step s event).2 := by
  have hrefl : session.SameFrame session := ⟨_, _, _, rfl⟩
  have herased (id : String) :
      session.SameFrame { session with pending := session.pending.erase id } := ⟨_, _, _, rfl⟩
  cases event with
  | call request reply reading =>
    rw [step]
    rcases startCall_cases (s := s) session request reading _ with
      ⟨failure, -, h⟩ | ⟨call, r, -, -, h⟩ | ⟨call, flight, -, -, h⟩ <;> rw [h]
    · exact hrefl
    · exact sameFrame_start session call
    · exact sameFrame_finishCall (sameFrame_start session call) _ _ _ _
  | start id request reading =>
    rw [step]
    rcases startCall_cases (s := s) session request reading _ with
      ⟨failure, -, h⟩ | ⟨call, r, -, -, h⟩ | ⟨call, flight, -, -, h⟩ <;> rw [h]
    · exact hrefl
    · exact sameFrame_start session call
    · obtain ⟨breakers, limiter, h⟩ := session.gateway.start_snd s session.now call
      exact ⟨breakers, limiter, _, by rw [h]⟩
  | finish id reply reading =>
    rw [step_finish]
    cases session.pending.get? id with
    | none => exact hrefl
    | some flight => exact sameFrame_finishCall (herased id) _ _ _ _
  | drop id =>
    rw [step_drop]
    cases session.pending.get? id with
    | none => exact hrefl
    | some flight => exact herased id
  | _ => contradiction

/-! ## Time -/

/-- How much time an event takes. -/
def elapsed : Event → Nat
  | .advance nanoseconds => nanoseconds
  | _ => 0

/-- Only the event of time takes time. -/
theorem now_step (session : Session) (event : Event) :
    (session.step s event).2.now = session.now + elapsed event := by
  cases hcall : event.isOfCall with
  | true =>
    obtain ⟨breakers, limiter, pending, h⟩ := sameFrame_step (s := s) session hcall
    rw [h]
    cases event <;> first | contradiction | rfl
  | false => cases event <;> first | contradiction | rfl

/-- Time does not go back in a run. -/
theorem now_le_run (session : Session) (events : List Event) :
    session.now ≤ (session.run s events).2.now := by
  induction events generalizing session with
  | nil => exact Nat.le_refl _
  | cons event events ih =>
    have hstep := now_step (s := s) session event
    have hrest := ih (session.step s event).2
    rw [run_cons_snd]
    omega

/-- A run has not gone beyond its end before. -/
theorem now_reach_le (session : Session) (events : List Event) (i : Nat) :
    (session.reach s events i).now ≤ (session.run s events).2.now := by
  calc (session.reach s events i).now
      ≤ ((session.reach s events i).run s (events.drop i)).2.now := now_le_run _ _
    _ = (session.run s (events.take i ++ events.drop i)).2.now := by rw [run_append]; rfl
    _ = (session.run s events).2.now := by rw [List.take_append_drop]

/-! ## Records -/

/-- Records change only where one is added. -/
theorem registry_step (session : Session) (event : Event) :
    (session.step s event).2.gateway.registry =
      match event with
      | .register server => Registry.register session.gateway.registry server
      | _ => session.gateway.registry := by
  cases hcall : event.isOfCall with
  | true =>
    obtain ⟨breakers, limiter, pending, h⟩ := sameFrame_step (s := s) session hcall
    rw [h]
    cases event <;> first | contradiction | rfl
  | false => cases event <;> first | contradiction | rfl

/-! ## Waiting calls -/

/-- An event that does not name a call leaves it waiting, and starts none of its name. -/
theorem pending_step_of_not_names {session : Session} {event : Event} {id : String}
    (h : ¬ event.names id) :
    (session.step s event).2.pending.get? id = session.pending.get? id := by
  cases event with
  | call request reply reading =>
    rw [step]
    rcases startCall_cases (s := s) session request reading _ with
      ⟨failure, -, h'⟩ | ⟨call, r, -, -, h'⟩ | ⟨call, flight, -, -, h'⟩ <;> rw [h']
    rw [finishCall_snd]
  | start id' request reading =>
    rw [step]
    rcases startCall_cases (s := s) session request reading _ with
      ⟨failure, -, h'⟩ | ⟨call, r, -, -, h'⟩ | ⟨call, flight, -, -, h'⟩ <;> rw [h']
    exact Table.get?_insert_of_ne _ _ h
  | finish id' reply reading =>
    rw [step_finish]
    cases session.pending.get? id' with
    | none => rfl
    | some flight =>
      rw [Option.elim_some, finishCall_snd]
      exact (Table.get?_erase _ _ _).trans (if_neg h)
  | drop id' =>
    rw [step_drop]
    cases session.pending.get? id' with
    | none => rfl
    | some flight => exact (Table.get?_erase _ _ _).trans (if_neg h)
  | _ => rfl

/-- A call that waits waited before, or it just left the gateway. -/
theorem pending_of_pending_step {session : Session} {event : Event} {id : String}
    {flight : InFlight} (h : (session.step s event).2.pending.get? id = some flight) :
    session.pending.get? id = some flight ∨
      ∃ request reading call, event = .start id request reading ∧ request.toCall = .ok call ∧
        (session.gateway.start s session.now call).1 = .ok flight := by
  by_cases hnames : event.names id
  · cases event with
    | start id' request reading =>
      obtain rfl : id' = id := hnames
      rw [step] at h
      rcases startCall_cases (s := s) session request reading _ with
        ⟨failure, -, h'⟩ | ⟨call, r, -, -, h'⟩ | ⟨call, flight', hcall, hstart, h'⟩
      · rw [h'] at h
        exact Or.inl h
      · rw [h'] at h
        exact Or.inl h
      · rw [h'] at h
        obtain rfl : flight' = flight := by simpa using h
        exact Or.inr ⟨request, reading, call, rfl, hcall, hstart⟩
    | finish id' reply reading =>
      obtain rfl : id' = id := hnames
      rw [step_finish] at h
      cases hwaits : session.pending.get? id' with
      | none => simp [hwaits] at h
      | some flight' =>
        rw [hwaits, Option.elim_some, finishCall_snd] at h
        simp [Table.get?_erase] at h
    | drop id' =>
      obtain rfl : id' = id := hnames
      rw [step_drop] at h
      cases hwaits : session.pending.get? id' with
      | none => simp [hwaits] at h
      | some flight' =>
        rw [hwaits, Option.elim_some] at h
        simp [Table.get?_erase] at h
    | _ => exact hnames.elim
  · exact Or.inl ((pending_step_of_not_names hnames).symm.trans h)

/-- A call goes on waiting through events that do not name it. -/
theorem pending_run_of_not_names {session : Session} {events : List Event} {id : String}
    (h : ∀ event ∈ events, ¬ event.names id) :
    (session.run s events).2.pending.get? id = session.pending.get? id := by
  induction events generalizing session with
  | nil => rfl
  | cons event events ih =>
    rw [run_cons_snd, ih fun e he => h e (List.mem_cons_of_mem _ he)]
    exact pending_step_of_not_names (h event List.mem_cons_self)

end Session

end ToolGateway
