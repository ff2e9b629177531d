import ToolGateway.Proofs.Gateway.Report

/-!
# Where calls end

A run is a list of events, and a call is known by the position of the event that brings it. The call
ends at the same position, or it waits under a name and ends at the position of its reply, if no
event between ends its waiting otherwise. Every call ends at one position at most, and at every
position one call ends at most.
-/

namespace ToolGateway.Session

variable {s : Gateway.Settings} {session : Session} {events : List Event} {i j k : Nat}
  {id : String} {request : Request} {flight : InFlight}

/-- The call of `request`, brought by the event at the position `i` of a run, has waited under the
name `id` up to the event at the position `j`. -/
structure WaitsTo (s : Gateway.Settings) (session : Session) (events : List Event) (i j : Nat)
    (id : String) (request : Request) : Prop where
  before : i < j
  started : ∃ reading, events[i]? = some (.start id request reading) ∧
    ((session.reach s events i).step s (.start id request reading)).1.told = .waiting
  undisturbed : ∀ k next, i < k → k < j → events[k]? = some next →
    (session.reach s events k).ends s id next = false

/-- The call of `request`, brought by the event at the position `i` of a run, ends at the position
`j`, where its caller is told `result`: at once, or by the reply to the call that has waited. -/
def EndsAt (s : Gateway.Settings) (session : Session) (events : List Event) (i j : Nat)
    (request : Request) (result : Except Failure Output) : Prop :=
  ∃ event, events[j]? = some event ∧
    ((session.reach s events j).step s event).1.told = .result result ∧
    (i = j ∧ event.request? = some request ∨
      ∃ id reply reading, event = .finish id reply reading ∧
        session.WaitsTo s events i j id request)

/-- A call is told to wait exactly if it left the gateway. -/
theorem told_start_eq_waiting_iff {reading : Reading} :
    (session.step s (.start id request reading)).1.told = .waiting ↔
      ∃ flight, session.left? s request = some flight := by
  cases hcall : request.toCall with
  | error failure =>
    have hrequest : (Event.start id request reading).request? = some request := rfl
    rw [step_of_toCall_eq_error hrequest hcall]
    simp [left?, hcall]
  | ok call =>
    cases hstart : (session.gateway.start s session.now call).1 with
    | error r =>
      have hrequest : (Event.start id request reading).request? = some request := rfl
      obtain ⟨reading, h⟩ := step_of_start_eq_error hrequest hcall hstart
      rw [h]
      simp [rejected, left?, hcall, hstart, Except.toOption]
    | ok flight =>
      rw [step_start_of_ok hcall hstart]
      exact iff_of_true rfl ⟨flight, left?_eq_some_iff.mpr ⟨call, hcall, hstart⟩⟩

/-! ## Waiting -/

/-- A call that waits under a name has just started, or it waited before and no event ended this. -/
theorem pending_step_cases {event : Event}
    (h : (session.step s event).2.pending.get? id = some flight) :
    (∃ request reading, event = .start id request reading ∧
        session.left? s request = some flight) ∨
      session.pending.get? id = some flight ∧ session.ends s id event = false := by
  cases hends : session.ends s id event with
  | false => exact Or.inr ⟨(pending_step_of_not_ends hends).symm.trans h, rfl⟩
  | true =>
    left
    cases event with
    | start id' request reading =>
      obtain ⟨rfl, hleft⟩ : id' = id ∧ (session.left? s request).isSome := by
        simpa [ends] using hends
      obtain ⟨flight', hflight⟩ := Option.isSome_iff_exists.mp hleft
      obtain ⟨call, hcall, hstart⟩ := left?_eq_some_iff.mp hflight
      rw [step_start_of_ok hcall hstart, Table.get?_insert_self, Option.some.injEq] at h
      exact ⟨request, reading, rfl, h ▸ hflight⟩
    | finish id' reply reading =>
      obtain rfl : id' = id := by simpa [ends] using hends
      rw [step_finish] at h
      cases hwaits : session.pending.get? id' with
      | none => simp [hwaits] at h
      | some flight' =>
        rw [hwaits, Option.elim_some, finishCall_snd] at h
        simp [Table.get?_erase] at h
    | drop id' =>
      obtain rfl : id' = id := by simpa [ends] using hends
      rw [step_drop] at h
      cases hwaits : session.pending.get? id' with
      | none => simp [hwaits] at h
      | some flight' =>
        rw [hwaits, Option.elim_some] at h
        simp [Table.get?_erase] at h
    | _ => simp [ends] at hends

/-- A call that waits at a position of a run, and did not wait at its beginning, was brought by an
earlier event and has waited since. -/
theorem exists_waitsTo (hbegin : session.pending.get? id = none)
    (h : (session.reach s events j).pending.get? id = some flight) :
    ∃ i request, session.WaitsTo s events i j id request ∧
      (session.reach s events i).left? s request = some flight := by
  obtain ⟨i, event, hij, hevent, ⟨request, reading, rfl, hleft⟩, hkept⟩ := exists_cause
    (P := fun session => session.pending.get? id = some flight)
    (C := fun session event => ∃ request reading, event = .start id request reading ∧
      session.left? s request = some flight)
    (K := fun session event => session.ends s id event = false)
    (fun _ _ => pending_step_cases) (by simp [hbegin]) h
  refine ⟨i, request, ⟨hij, ⟨reading, hevent, ?_⟩, ?_⟩, hleft⟩
  · exact told_start_eq_waiting_iff.mpr ⟨flight, hleft⟩
  · exact fun k next hik hkj hnext => (hkept k next hik hkj hnext).2

/-- A call that has waited up to a position waits there. -/
theorem WaitsTo.pending (h : session.WaitsTo s events i j id request) :
    ∃ flight, (session.reach s events i).left? s request = some flight ∧
      (session.reach s events j).pending.get? id = some flight := by
  obtain ⟨hij, ⟨reading, hstart, htold⟩, hquiet⟩ := h
  obtain ⟨flight, hleft⟩ := told_start_eq_waiting_iff.mp htold
  refine ⟨flight, hleft, ?_⟩
  induction j with
  | zero => exact absurd hij (Nat.not_lt_zero i)
  | succ j ih =>
    rcases Nat.lt_succ_iff_lt_or_eq.mp hij with hij | rfl
    · have hwaits := ih hij fun k next hik hkj => hquiet k next hik (Nat.lt_succ_of_lt hkj)
      cases hlast : events[j]? with
      | none =>
        have hend : events.length ≤ j := List.getElem?_eq_none_iff.mp hlast
        rwa [reach_of_length_le (Nat.le_succ_of_le hend), ← reach_of_length_le hend]
      | some last =>
        have hkept := hquiet j last hij (Nat.lt_succ_self j) hlast
        rw [reach_succ hlast, pending_step_of_not_ends hkept]
        exact hwaits
    · obtain ⟨call, hcall, hleaves⟩ := left?_eq_some_iff.mp hleft
      rw [reach_succ hstart, step_start_of_ok hcall hleaves]
      exact Table.get?_insert_self _ _ _

/-! ## One call, one end -/

/-- A call does not wait beyond an event that ends its waiting. -/
theorem WaitsTo.le_of_ends {event : Event} (h : session.WaitsTo s events i j id request)
    (hik : i < k) (hevent : events[k]? = some event)
    (hends : (session.reach s events k).ends s id event = true) : j ≤ k := by
  refine Nat.le_of_not_lt fun hkj => ?_
  have hquiet := h.undisturbed k event hik hkj hevent
  rw [hends] at hquiet
  cases hquiet

/-- A call ends at one position only. -/
theorem EndsAt.end_unique {request' : Request} {result result' : Except Failure Output}
    (h : session.EndsAt s events i j request result)
    (h' : session.EndsAt s events i k request' result') : j = k := by
  obtain ⟨event, hevent, htold, hends⟩ := h
  obtain ⟨event', hevent', htold', hends'⟩ := h'
  rcases hends with ⟨rfl, -⟩ | ⟨id, reply, reading, rfl, hwaits⟩
  · rcases hends' with ⟨rfl, -⟩ | ⟨id, reply, reading, rfl, hwaits⟩
    · rfl
    · obtain ⟨reading', hstart, hwaiting⟩ := hwaits.started
      rw [hevent, Option.some.injEq] at hstart
      rw [hstart, hwaiting] at htold
      cases htold
  · obtain ⟨reading', hstart, hwaiting⟩ := hwaits.started
    rcases hends' with ⟨rfl, -⟩ | ⟨id', reply', reading'', rfl, hwaits'⟩
    · rw [hstart, Option.some.injEq] at hevent'
      rw [← hevent', hwaiting] at htold'
      cases htold'
    · obtain ⟨_, hstart', -⟩ := hwaits'.started
      rw [hstart] at hstart'
      cases hstart'
      refine Nat.le_antisymm ?_ ?_
      · exact hwaits.le_of_ends hwaits'.before hevent' (by simp [ends])
      · exact hwaits'.le_of_ends hwaits.before hevent (by simp [ends])

/-- At one position only one call ends, and its caller is told one result. -/
theorem EndsAt.call_unique {request' : Request} {result result' : Except Failure Output}
    (h : session.EndsAt s events i j request result)
    (h' : session.EndsAt s events k j request' result') :
    i = k ∧ request = request' ∧ result = result' := by
  obtain ⟨event, hevent, htold, hends⟩ := h
  obtain ⟨event', hevent', htold', hends'⟩ := h'
  rw [hevent, Option.some.injEq] at hevent'
  subst hevent'
  rw [htold, Told.result.injEq] at htold'
  rcases hends with ⟨rfl, hrequest⟩ | ⟨id, reply, reading, rfl, hwaits⟩
  · rcases hends' with ⟨rfl, hrequest'⟩ | ⟨id, reply, reading, rfl, -⟩
    · rw [hrequest, Option.some.injEq] at hrequest'
      exact ⟨rfl, hrequest', htold'⟩
    · cases hrequest
  · rcases hends' with ⟨rfl, hrequest'⟩ | ⟨id', reply', reading', hsame, hwaits'⟩
    · cases hrequest'
    · cases hsame
      -- The later of two starts under one name would have ended the waiting of the earlier call.
      have hnot {i k : Nat} {request request' : Request}
          (h : session.WaitsTo s events i j id request)
          (h' : session.WaitsTo s events k j id request') : ¬ i < k := by
        intro hik
        obtain ⟨reading, hstart, hwaiting⟩ := h'.started
        obtain ⟨flight, hleft⟩ := told_start_eq_waiting_iff.mp hwaiting
        exact Nat.not_lt.mpr (h.le_of_ends hik hstart (by simp [ends, hleft])) h'.before
      obtain rfl : i = k := by
        have := hnot hwaits hwaits'
        have := hnot hwaits' hwaits
        omega
      obtain ⟨_, hstart, -⟩ := hwaits.started
      obtain ⟨_, hstart', -⟩ := hwaits'.started
      rw [hstart] at hstart'
      cases hstart'
      exact ⟨rfl, rfl, htold'⟩

/-- A call that is answered at once ends at once. -/
theorem exists_endsAt_of_call {reply : Outgoing → Reply} {reading : Reading}
    (h : events[i]? = some (.call request reply reading)) :
    ∃ result, session.EndsAt s events i i request result := by
  have htold (session : Session) :
      ∃ result, (session.step s (.call request reply reading)).1.told = .result result := by
    rw [step]
    rcases startCall_cases (s := s) session request reading _ with
      ⟨failure, -, h⟩ | ⟨call, r, -, -, h⟩ | ⟨call, flight, -, -, h⟩ <;> rw [h]
    · exact ⟨_, rfl⟩
    · exact ⟨_, rfl⟩
    · exact ⟨_, by rw [finishCall_fst]⟩
  obtain ⟨result, hresult⟩ := htold (session.reach s events i)
  exact ⟨result, _, h, hresult, Or.inl ⟨rfl, rfl⟩⟩

/-- A call that waits ends at the reply to it. -/
theorem WaitsTo.exists_endsAt {reply : Outgoing → Reply} {reading : Reading}
    (h : session.WaitsTo s events i j id request)
    (hreply : events[j]? = some (.finish id reply reading)) :
    ∃ result, session.EndsAt s events i j request result := by
  obtain ⟨flight, -, hwaits⟩ := h.pending
  refine ⟨Gateway.resultOf s flight (reply flight.request) reading, _, hreply, ?_,
    Or.inr ⟨id, reply, reading, rfl, h⟩⟩
  rw [step_finish, hwaits, Option.elim_some, finishCall_fst]

/-- A call whose caller goes away while it waits has no end. -/
theorem WaitsTo.not_endsAt (h : session.WaitsTo s events i k id request)
    (hdrop : events[k]? = some (.drop id)) (request' : Request) (result : Except Failure Output) :
    ¬ session.EndsAt s events i j request' result := by
  rintro ⟨event, hevent, htold, hends⟩
  obtain ⟨reading, hstart, hwaiting⟩ := h.started
  rcases hends with ⟨rfl, -⟩ | ⟨id', reply, reading', rfl, hwaits⟩
  · rw [hstart, Option.some.injEq] at hevent
    rw [← hevent, hwaiting] at htold
    cases htold
  · obtain ⟨_, hstart', -⟩ := hwaits.started
    rw [hstart] at hstart'
    cases hstart'
    have hjk := hwaits.le_of_ends h.before hdrop (by simp [ends])
    have hkj := h.le_of_ends hwaits.before hevent (by simp [ends])
    obtain rfl : j = k := Nat.le_antisymm hjk hkj
    rw [hdrop] at hevent
    cases hevent

end ToolGateway.Session
