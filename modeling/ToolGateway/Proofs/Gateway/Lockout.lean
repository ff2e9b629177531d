import ToolGateway.Proofs.Gateway.Evidence
import ToolGateway.Proofs.Gateway.Report
import ToolGateway.Proofs.Gateway.TrialOverlap
import ToolGateway.Proofs.Gateway.TrialPlace

/-!
# Nobody is locked out for ever

A breaker refuses a call for two times that it keeps: since when it is open, and since when a trial
holds its place. Both are times of events that really happened. The first is the time of the last
failure, and no success came after the failure that opened the breaker; the second is the time at
which a trial was admitted, whatever became of it. Each keeps a call out for one blackout at most,
so a label whose callers all went away is called again.
-/

namespace ToolGateway

namespace Gateway

/-- A breaker that is open when a reply has come in was opened by it just now, or it was open before
and the reply says nothing about the tool server. -/
theorem openedAt_finishUses {b : Breaker} {now t : Nat} {flight : InFlight} {reply : Reply}
    (h : ((finishUses now flight reply).foldl Breaker.take b).openedAt = some t) :
    Reply.isFailure reply = true ∧ t = now ∨
      b.openedAt = some t ∧ Reply.isSuccess reply = false := by
  have hfails (hreply : finishUses now flight reply = [⟨now, .failure flight.breaker⟩]) :
      t = now := by
    rw [hreply, List.foldl_cons, List.foldl_nil] at h
    cases b with
    | opened n since trial => simpa [Breaker.take, Breaker.fail, Breaker.openedAt, eq_comm] using h
    | closed n =>
      simp only [Breaker.take, Breaker.fail] at h
      split at h
      · simpa [Breaker.openedAt, eq_comm] using h
      · simp [Breaker.openedAt] at h
  cases reply with
  | ok answer =>
    by_cases hstatus : 500 ≤ answer.status
    · exact Or.inl ⟨by simpa [Reply.isFailure] using hstatus,
        hfails (by simp [finishUses, hstatus])⟩
    · simp [finishUses, hstatus, Breaker.take, Breaker.succeed, Breaker.fresh,
        Breaker.openedAt] at h
  | error cause =>
    cases hevidence : cause.isEvidence with
    | true =>
      exact Or.inl ⟨by cases cause <;> trivial, hfails (by simp [finishUses, hevidence])⟩
    | false =>
      refine Or.inr ⟨?_, rfl⟩
      have hquiet : ∀ e ∈ finishUses now flight (.error cause), e.use.isReport = false := by
        cases hadmission : flight.admission <;>
          simp [finishUses, hevidence, hadmission, Breaker.Use.isReport]
      rw [(Breaker.foldl_take_of_quiet hquiet).2] at h
      exact h

end Gateway

namespace Session

variable {s : Gateway.Settings} {session : Session} {label : String} {event : Event} {t : Nat}

/-- An event completes a call of the label, and the reply tells that the tool server is not well. -/
def RecordsFailure (s : Gateway.Settings) (session : Session) (label : String) (event : Event) :
    Prop :=
  ∃ flight reply, session.completes s event = some (flight, reply) ∧ flight.call.label = label ∧
    Reply.isFailure reply = true

/-- An event completes a call of the label, and the reply tells that the tool server is well. -/
def RecordsSuccess (s : Gateway.Settings) (session : Session) (label : String) (event : Event) :
    Prop :=
  ∃ flight reply, session.completes s event = some (flight, reply) ∧ flight.call.label = label ∧
    Reply.isSuccess reply = true

/-- A breaker that is open after an event was opened by it just now, or it was open before and no
success came. -/
theorem openedAt_step
    (h : ((session.step s event).2.gateway.breakers.of label).openedAt = some t) :
    session.RecordsFailure s label event ∧ t = session.now ∨
      (session.gateway.breakers.of label).openedAt = some t ∧
        ¬ session.RecordsSuccess s label event := by
  obtain ⟨asked, hquiet, huses⟩ := usesOf_uses (s := s) session label event
  rw [breakers_step, Breakers.of_takeAll, huses, List.foldl_append] at h
  have hasked := (Breaker.foldl_take_of_quiet (b := session.gateway.breakers.of label) hquiet).2
  cases hdone : session.completes s event with
  | none =>
    rw [hdone, Option.elim_none, List.foldl_nil, hasked] at h
    exact Or.inr ⟨h, by simp [RecordsSuccess, hdone]⟩
  | some done =>
    obtain ⟨flight, reply⟩ := done
    rw [hdone, Option.elim_some] at h
    by_cases hlabel : flight.call.label = label
    · rw [if_pos hlabel] at h
      rcases Gateway.openedAt_finishUses h with ⟨hfailure, hnow⟩ | ⟨hopen, hother⟩
      · exact Or.inl ⟨⟨flight, reply, hdone, hlabel, hfailure⟩, hnow⟩
      · refine Or.inr ⟨hasked.symm.trans hopen, ?_⟩
        rintro ⟨flight', reply', hdone', -, hsuccess⟩
        rw [hdone] at hdone'
        cases hdone'
        rw [hother] at hsuccess
        cases hsuccess
    · rw [if_neg hlabel, List.foldl_nil, hasked] at h
      refine Or.inr ⟨h, ?_⟩
      rintro ⟨flight', reply', hdone', hlabel', -⟩
      rw [hdone] at hdone'
      cases hdone'
      exact hlabel hlabel'

/-- An event that starts a trial admits it, and the trial holds its place since the event. -/
theorem BeginsTrial.admits {id : String} {flight : InFlight}
    (h : session.BeginsTrial s label id event flight) :
    session.AdmitsTrial label event ∧
      ((session.step s event).2.gateway.breakers.of label).trialAt = some session.now := by
  obtain ⟨⟨request, reading, rfl, hleft⟩, rfl, htrial⟩ := h
  obtain ⟨call, hcall, hstart⟩ := left?_eq_some_iff.mp hleft
  obtain ⟨server, hresolve, hattempt, -, rfl, -⟩ := Gateway.start_fst_eq_ok_iff.mp hstart
  obtain ⟨n, since, -, hof⟩ := of_start_of_trial hstart htrial
  refine ⟨⟨request, flight.call, rfl, hcall, rfl, server, flight.breaker, hresolve, ?_⟩, ?_⟩
  · rw [hattempt, htrial]
  · rw [step_start_of_ok hcall hstart, hof]
    rfl

/-- A trial that holds the place after an event was admitted by it just now, or it held the place
before. -/
theorem admitsTrial_of_trialAt_step
    (h : ((session.step s event).2.gateway.breakers.of label).trialAt = some t) :
    session.AdmitsTrial label event ∧ t = session.now ∨
      (session.gateway.breakers.of label).trialAt = some t := by
  rcases trialAt_step h with ⟨id, flight, hbegins⟩ | ⟨-, -, hbefore⟩
  · obtain ⟨hadmits, htaken⟩ := hbegins.admits
    rw [h] at htaken
    exact Or.inl ⟨hadmits, Option.some.inj htaken⟩
  · exact Or.inr hbefore

/-- A breaker that refuses a call is open, and it was opened or admitted a trial less than one
blackout ago. -/
theorem times_of_circuitOpen {call : Call} {server : ToolServer} {breaker : Breaker.Settings}
    (hresolve : session.gateway.resolve call.label = .ok (server, breaker))
    (h : (session.gateway.start s session.now call).1 = .error .circuitOpen) :
    ∃ since, (session.gateway.breakers.of call.label).openedAt = some since ∧
      (session.now < since + breaker.blackout ∨ ∃ began,
        (session.gateway.breakers.of call.label).trialAt = some began ∧
          session.now < began + breaker.blackout) := by
  obtain ⟨server', breaker', hresolve', hrefused⟩ := Gateway.start_fst_eq_circuitOpen_iff.mp h
  rw [hresolve] at hresolve'
  cases hresolve'
  rw [Breakers.attempt_fst] at hrefused
  cases hopen : (session.gateway.breakers.of call.label).openedAt with
  | none => simp [hopen, Breaker.answer] at hrefused
  | some since =>
    refine ⟨since, rfl, ?_⟩
    by_cases hover : session.now < since + breaker.blackout
    · exact Or.inl hover
    · right
      have hblackout : breaker.blackout ≤ session.now - since := by omega
      cases htrial : (session.gateway.breakers.of call.label).trialAt with
      | none => simp [hopen, htrial, Breaker.answer, hblackout] at hrefused
      | some began =>
        refine ⟨began, rfl, ?_⟩
        have hyoung : session.now - began < breaker.blackout := by
          simpa [hopen, htrial, Breaker.answer, hblackout] using hrefused
        omega

/-! ## In a run -/

variable {events : List Event} {j : Nat}

/-- In a run from a closed breaker, a breaker that is open has its opening time from an event that
recorded a failure. -/
theorem exists_failure_of_openedAt
    (hclosed : (session.gateway.breakers.of label).openedAt = none)
    (h : ((session.reach s events j).gateway.breakers.of label).openedAt = some t) :
    ∃ i cause, events[i]? = some cause ∧ (session.reach s events i).RecordsFailure s label cause ∧
      t = (session.reach s events i).now := by
  obtain ⟨i, cause, -, hcause, ⟨hfailure, hnow⟩, -⟩ := exists_cause
    (P := fun session => (session.gateway.breakers.of label).openedAt = some t)
    (fun _ _ => openedAt_step) (by simp [hclosed]) h
  exact ⟨i, cause, hcause, hfailure, hnow⟩

/-- A trial that holds a place was admitted by an event at the time that the breaker keeps. -/
theorem exists_trial_of_trialAt
    (hfree : (session.gateway.breakers.of label).trialAt = none)
    (h : ((session.reach s events j).gateway.breakers.of label).trialAt = some t) :
    ∃ i cause, events[i]? = some cause ∧ (session.reach s events i).AdmitsTrial label cause ∧
      t = (session.reach s events i).now := by
  obtain ⟨i, cause, -, hcause, ⟨hadmits, hnow⟩, -⟩ := exists_cause
    (P := fun session => (session.gateway.breakers.of label).trialAt = some t)
    (K := fun _ _ => True)
    (fun _ _ h => (admitsTrial_of_trialAt_step (s := s) h).imp_right (⟨·, trivial⟩))
    (by simp [hfree]) h
  exact ⟨i, cause, hcause, hadmits, hnow⟩

/-- In a run from a closed breaker, a call that the breaker refuses has a cause that is less than one
blackout old: an event that recorded a failure or admitted a trial. -/
theorem exists_recent_cause {call : Call} {server : ToolServer} {breaker : Breaker.Settings}
    (hclosed : (session.gateway.breakers.of call.label).openedAt = none)
    (hfree : (session.gateway.breakers.of call.label).trialAt = none)
    (hresolve : (session.reach s events j).gateway.resolve call.label = .ok (server, breaker))
    (h : ((session.reach s events j).gateway.start s (session.reach s events j).now call).1 =
      .error .circuitOpen) :
    ∃ i cause, events[i]? = some cause ∧
      ((session.reach s events i).RecordsFailure s call.label cause ∨
        (session.reach s events i).AdmitsTrial call.label cause) ∧
      (session.reach s events j).now < (session.reach s events i).now + breaker.blackout := by
  obtain ⟨since, hsince, hopen | ⟨began, hbegan, hyoung⟩⟩ := times_of_circuitOpen hresolve h
  · obtain ⟨i, cause, hcause, hfailure, rfl⟩ := exists_failure_of_openedAt hclosed hsince
    exact ⟨i, cause, hcause, Or.inl hfailure, hopen⟩
  · obtain ⟨i, cause, hcause, hadmits, rfl⟩ := exists_trial_of_trialAt hfree hbegan
    exact ⟨i, cause, hcause, Or.inr hadmits, hyoung⟩

/-- A reply does not tell both that the tool server is well and that it is not. -/
theorem RecordsFailure.not_recordsSuccess (h : session.RecordsFailure s label event) :
    ¬ session.RecordsSuccess s label event := by
  obtain ⟨flight, reply, hdone, -, hfailure⟩ := h
  rintro ⟨flight', reply', hdone', -, hsuccess⟩
  rw [hdone] at hdone'
  cases hdone'
  cases reply with
  | ok answer =>
    simp only [Reply.isFailure, Reply.isSuccess, decide_eq_true_eq] at hfailure hsuccess
    omega
  | error cause => cases hsuccess

/-- A breaker that is open was opened by an event that recorded a failure. Since then it was open
before every event, and no event recorded a success. -/
theorem exists_opener (hclosed : (session.gateway.breakers.of label).isOpen = false)
    (h : ((session.reach s events j).gateway.breakers.of label).isOpen = true) :
    ∃ i opener, i < j ∧ events[i]? = some opener ∧
      ((session.reach s events i).RecordsFailure s label opener ∧
        ((session.reach s events i).gateway.breakers.of label).isOpen = false) ∧
      ∀ k next, i < k → k < j → events[k]? = some next →
        ((session.reach s events k).gateway.breakers.of label).isOpen = true ∧
          ¬ (session.reach s events k).RecordsSuccess s label next := by
  refine exists_cause (P := fun session => (session.gateway.breakers.of label).isOpen = true)
    (C := fun session event => session.RecordsFailure s label event ∧
      (session.gateway.breakers.of label).isOpen = false)
    (K := fun session event => ¬ session.RecordsSuccess s label event) ?_ (by simp [hclosed]) h
  intro session event hopen
  obtain ⟨t, ht⟩ := Option.isSome_iff_exists.mp hopen
  cases hbefore : (session.gateway.breakers.of label).isOpen with
  | true =>
    refine Or.inr ⟨rfl, ?_⟩
    rcases openedAt_step ht with ⟨hfailure, -⟩ | ⟨-, hnone⟩
    · exact hfailure.not_recordsSuccess
    · exact hnone
  | false =>
    rcases openedAt_step ht with ⟨hfailure, -⟩ | ⟨hsame, -⟩
    · exact Or.inl ⟨hfailure, rfl⟩
    · simp [Breaker.isOpen, hsame] at hbefore

/-- Let a run begin at a gateway that has seen no call, and let one more call resolve to settings
with some blackout. If the caller is told that the circuit is open, then less than one blackout ago
an event recorded a failure for the label or admitted a trial of it; and an event recorded a failure
that opened the circuit, which stayed open since without any success recorded. So once all failures
and trials of the label are one blackout old the caller is not told so, whatever became of the calls
that wait. -/
theorem circuitOpen_justified (s : Gateway.Settings) (registry : Registry) (policy : Trust.Policy)
    (events : List Event) {event : Event} {request : Request} {call : Call} {server : ToolServer}
    {breaker : Breaker.Settings} (hrequest : event.request? = some request)
    (hcall : request.toCall = .ok call) :
    let begun := Session.new (Gateway.new registry policy)
    let later := (begun.run s events).2
    later.gateway.resolve call.label = .ok (server, breaker) →
    ((∃ message, (later.step s event).1.told = .result (.error (.unavailable message))) →
      (∃ i cause, events[i]? = some cause ∧
        ((begun.reach s events i).RecordsFailure s call.label cause ∨
          (begun.reach s events i).AdmitsTrial call.label cause) ∧
        (begun.reach s events i).now ≤ later.now ∧
        later.now < (begun.reach s events i).now + breaker.blackout) ∧
      ∃ i opener, events[i]? = some opener ∧
        (begun.reach s events i).RecordsFailure s call.label opener ∧
        ((begun.reach s events i).gateway.breakers.of call.label).isOpen = false ∧
        (later.gateway.breakers.of call.label).isOpen = true ∧
        ∀ k next, i < k → events[k]? = some next →
          ((begun.reach s events k).gateway.breakers.of call.label).isOpen = true ∧
            ¬ (begun.reach s events k).RecordsSuccess s call.label next) ∧
    ((∀ i cause, events[i]? = some cause →
        (begun.reach s events i).RecordsFailure s call.label cause ∨
          (begun.reach s events i).AdmitsTrial call.label cause →
        (begun.reach s events i).now + breaker.blackout ≤ later.now) →
      ∀ message, (later.step s event).1.told ≠ .result (.error (.unavailable message))) := by
  intro begun later hresolve
  have hfresh : begun.gateway.breakers.of call.label = .closed 0 := rfl
  have hlater : later = begun.reach s events events.length :=
    (reach_of_length_le (Nat.le_refl _)).symm
  clear_value later
  subst hlater
  have hrecent (h : ∃ message, ((begun.reach s events events.length).step s event).1.told =
      .result (.error (.unavailable message))) :=
    exists_recent_cause (by rw [hfresh]; rfl) (by rw [hfresh]; rfl) hresolve
      ((told_unavailable_iff hrequest hcall).mp h)
  refine ⟨fun h => ⟨?_, ?_⟩, fun hold message htold => ?_⟩
  · obtain ⟨i, cause, hcause, hcauses, hyoung⟩ := hrecent h
    have hnow := now_reach_le (s := s) begun events i
    rw [← reach_of_length_le (Nat.le_refl _)] at hnow
    exact ⟨i, cause, hcause, hcauses, hnow, hyoung⟩
  · obtain ⟨since, hsince, -⟩ :=
      times_of_circuitOpen hresolve ((told_unavailable_iff hrequest hcall).mp h)
    have hopen : ((begun.reach s events events.length).gateway.breakers.of
        call.label).isOpen = true :=
      Option.isSome_iff_exists.mpr ⟨since, hsince⟩
    obtain ⟨i, opener, -, hopener, ⟨hfailure, hbefore⟩, hkept⟩ :=
      exists_opener (by rw [hfresh]; rfl) hopen
    refine ⟨i, opener, hopener, hfailure, hbefore, hopen, fun k next hik hnext => ?_⟩
    exact hkept k next hik (List.getElem?_eq_some_iff.mp hnext).1 hnext
  · obtain ⟨i, cause, hcause, hcauses, hyoung⟩ := hrecent ⟨message, htold⟩
    exact Nat.not_lt.mpr (hold i cause hcause hcauses) hyoung

/-- A trial whose caller went away keeps the next call out a second before it is one blackout old,
and the breaker admits a trial again at the end of that second. -/
theorem circuitOpen_justified_of_dropped_trial :
    let s : Gateway.Settings := ⟨60, 60 * Time.second, none⟩
    let request : Request := ⟨"me", "s", "echo", [0x7b, 0x7d]⟩
    let begun := Session.new (Gateway.new [] .empty)
    let events : List Event := [.addDefault ⟨"*", .auto, 0⟩,
      .register ⟨"s", "http://127.0.0.1:9100", .none, none, true,
        some "\x7b\"fail_threshold\":1\x7d"⟩,
      .call request (fun _ => .ok ⟨500, .null⟩) ⟨0, 0⟩, .advance (30 * Time.second),
      .start "trial" request ⟨0, 0⟩, .drop "trial", .advance (29 * Time.second)]
    let later := (begun.run s events).2
    let event : Event := .call request (fun _ => .ok ⟨200, .null⟩) ⟨0, 0⟩
    (∃ message, (later.step s event).1.told = .result (.error (.unavailable message))) ∧
      (later.gateway.breakers.attempt "s" ⟨1, 30 * Time.second⟩ (later.now + Time.second)).1 =
        some .trial ∧
      ∃ i cause, events[i]? = some cause ∧
        ((begun.reach s events i).RecordsFailure s "s" cause ∨
          (begun.reach s events i).AdmitsTrial "s" cause) ∧
        later.now < (begun.reach s events i).now + 30 * Time.second := by
  intro s request begun events later event
  have hcall : request.toCall = .ok ⟨"me", "s", "echo", [0x7b, 0x7d], by decide, by decide⟩ :=
    Request.toCall_eq_ok_iff.mpr (by decide +kernel +revert)
  have hfound : later.gateway.registry.get? "s" = some ⟨"s", "http://127.0.0.1:9100", .none, none,
      true, some "\x7b\"fail_threshold\":1\x7d"⟩ := by
    decide +kernel +revert
  have hresolve : later.gateway.resolve "s" = .ok (_, ⟨1, 30 * Time.second⟩) :=
    Gateway.resolve_eq_ok_iff.mpr ⟨by decide +kernel +revert, hfound, rfl, by decide +kernel⟩
  have hasked : (later.gateway.breakers.attempt "s" ⟨1, 30 * Time.second⟩ later.now).1 = none := by
    decide +kernel +revert
  have hagain : (later.gateway.breakers.attempt "s" ⟨1, 30 * Time.second⟩
      (later.now + Time.second)).1 = some .trial := by
    decide +kernel +revert
  have hrequest : event.request? = some request := rfl
  have hrefused := (told_unavailable_iff (s := s) hrequest hcall).mpr
    (Gateway.start_fst_eq_circuitOpen_iff.mpr ⟨_, _, hresolve, hasked⟩)
  clear_value s events
  obtain ⟨⟨i, cause, hcause, hcauses, -, hyoung⟩, -⟩ :=
    (circuitOpen_justified s [] .empty events hrequest hcall hresolve).1 hrefused
  exact ⟨hrefused, hagain, i, cause, hcause, hcauses, hyoung⟩

end Session

end ToolGateway
