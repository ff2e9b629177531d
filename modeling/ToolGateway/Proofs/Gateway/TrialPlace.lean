import ToolGateway.Proofs.Gateway.BreakerLog
import ToolGateway.Proofs.Gateway.Completion

/-!
# The place of a trial is not lost

An open breaker admits a trial and keeps other calls out while the trial holds its place. Every way
to complete a trial frees the place: a report closes the breaker or begins a new blackout, and all
other ends give the place back. So while a place is taken, the trial that took it last still waits
for its reply, or was given up while it waited. Trials that overlap do not change this, since a
trial that ends frees the place whoever holds it.
-/

namespace ToolGateway

namespace Breaker

/-- A failure ends the trial. -/
@[simp] theorem trialAt_fail (b : Breaker) (threshold now : Nat) :
    (b.fail threshold now).trialAt = none := by
  cases b with
  | closed n => simp only [fail]; split <;> rfl
  | opened n since trial => rfl

/-- So does a success. -/
@[simp] theorem trialAt_succeed (b : Breaker) : b.succeed.trialAt = none := rfl

/-- A call that is not admitted as a trial leaves the one before it in place. -/
theorem trialAt_attempt_of_ne {b : Breaker} {blackout now : Nat}
    (h : (b.attempt blackout now).1 ≠ some .trial) :
    (b.attempt blackout now).2.trialAt = b.trialAt := by
  cases b with
  | closed n => rfl
  | opened n since trial =>
    rw [attempt_fst, openedAt, trialAt] at h
    rw [attempt_snd_opened, if_neg h]

end Breaker

namespace Gateway

variable {g : Gateway} {s : Settings} {now : Nat} {call : Call} {label : String} {t : Nat}

/-- The breaker of a call admits it as a trial. -/
def AdmitsTrial (g : Gateway) (now : Nat) (call : Call) : Prop :=
  ∃ server breaker, g.resolve call.label = .ok (server, breaker) ∧
    (g.breakers.attempt call.label breaker now).1 = some .trial

/-- A call that is not admitted as a trial only asks. -/
theorem startUses_of_not_trial {server : ToolServer} {breaker : Breaker.Settings}
    (hresolve : g.resolve call.label = .ok (server, breaker))
    (htrial : (g.breakers.attempt call.label breaker now).1 ≠ some .trial) :
    g.startUses s now call = [⟨now, .attempt breaker⟩] := by
  unfold startUses
  rw [hresolve]
  dsimp only
  split
  · contradiction
  · rfl

/-- A trial that is rejected behind the breaker gives its place back. -/
theorem startUses_of_rejected_trial {server : ToolServer} {breaker : Breaker.Settings}
    {r : Rejection} (hresolve : g.resolve call.label = .ok (server, breaker))
    (htrial : (g.breakers.attempt call.label breaker now).1 = some .trial)
    (hprepare : (g.prepare s now call server).1 = .error r) :
    g.startUses s now call = [⟨now, .attempt breaker⟩, ⟨now, .release⟩] := by
  unfold startUses
  rw [hresolve]
  dsimp only
  rw [htrial, hprepare]
  simp [recorded_of_prepare hprepare]

/-- A place that is taken when a call has begun was taken before, or the call is a trial that left
the gateway. -/
theorem trialAt_start (h : ((g.start s now call).2.breakers.of label).trialAt = some t) :
    (call.label = label ∧ ∃ flight, (g.start s now call).1 = .ok flight ∧
        flight.admission = .trial) ∨
      ¬ (call.label = label ∧ g.AdmitsTrial now call) ∧ (g.breakers.of label).trialAt = some t := by
  rw [breakers_start, Breakers.of_takeAll, usesOf_labelled] at h
  by_cases hlabel : call.label = label
  · rw [if_pos hlabel] at h
    subst hlabel
    cases hresolve : g.resolve call.label with
    | error r =>
      simp only [startUses, hresolve] at h
      refine Or.inr ⟨?_, h⟩
      rintro ⟨-, server, breaker, hfound, -⟩
      rw [hresolve] at hfound
      cases hfound
    | ok found =>
      obtain ⟨server, breaker⟩ := found
      by_cases htrial : (g.breakers.attempt call.label breaker now).1 = some .trial
      · cases hprepare : (g.prepare s now call server).1 with
        | error r =>
          rw [startUses_of_rejected_trial hresolve htrial hprepare] at h
          simp [Breaker.take] at h
        | ok ready =>
          refine Or.inl ⟨rfl, ⟨call, .trial, now, breaker, ready.2, ready.1⟩, ?_, rfl⟩
          exact start_fst_eq_ok_iff.mpr ⟨server, hresolve, htrial, hprepare, rfl, rfl⟩
      · rw [startUses_of_not_trial hresolve htrial] at h
        refine Or.inr ⟨?_, (Breaker.trialAt_attempt_of_ne htrial).symm.trans h⟩
        rintro ⟨-, server', breaker', hfound, hasked⟩
        rw [hresolve] at hfound
        cases hfound
        exact htrial hasked
  · rw [if_neg hlabel] at h
    exact Or.inr ⟨fun hadmits => hlabel hadmits.1, h⟩

/-- A place that is taken when a reply has come in was taken before, and the reply was not to a
trial of the label. -/
theorem trialAt_finish {flight : InFlight} {reply : Reply}
    (h : ((g.finish now flight reply).2.breakers.of label).trialAt = some t) :
    ¬ (flight.call.label = label ∧ flight.admission = .trial) ∧
      (g.breakers.of label).trialAt = some t := by
  rw [breakers_finish, Breakers.of_takeAll, usesOf_labelled] at h
  by_cases hlabel : flight.call.label = label
  · rw [if_pos hlabel] at h
    unfold finishUses at h
    cases reply with
    | ok answer => by_cases hstatus : 500 ≤ answer.status <;> simp [hstatus, Breaker.take] at h
    | error cause =>
      cases hevidence : cause.isEvidence with
      | true => simp [hevidence, Breaker.take] at h
      | false =>
        cases hadmission : flight.admission with
        | trial => simp [hevidence, hadmission, Breaker.take] at h
        | ordinary =>
          refine ⟨by simp, ?_⟩
          simpa [hevidence, hadmission] using h
  · rw [if_neg hlabel] at h
    exact ⟨fun htrial => hlabel htrial.1, h⟩

end Gateway

namespace Session

variable {s : Gateway.Settings} {session : Session} {label : String} {t : Nat}

/-- An event brings a call of the label that the breaker admits as a trial. -/
def AdmitsTrial (session : Session) (label : String) (event : Event) : Prop :=
  ∃ request call, event.request? = some request ∧ request.toCall = .ok call ∧
    call.label = label ∧ session.gateway.AdmitsTrial session.now call

/-- An event starts a call of the label that is admitted as a trial, leaves the gateway and waits
under the name `id`. -/
structure BeginsTrial (s : Gateway.Settings) (session : Session) (label id : String)
    (event : Event) (flight : InFlight) : Prop where
  starts : ∃ request reading, event = .start id request reading ∧
    session.left? s request = some flight
  label_eq : flight.call.label = label
  admission_eq : flight.admission = .trial

/-- A trial that starts waits under its name. -/
theorem BeginsTrial.waits {id : String} {event : Event} {flight : InFlight}
    (h : session.BeginsTrial s label id event flight) :
    (session.step s event).2.pending.get? id = some flight := by
  obtain ⟨request, reading, rfl, hleft⟩ := h.starts
  obtain ⟨call, hcall, hstart⟩ := left?_eq_some_iff.mp hleft
  rw [step_start_of_ok hcall hstart]
  exact Table.get?_insert_self _ _ _

/-- The call of an event is admitted as a trial or not. -/
theorem admitsTrial_iff {event : Event} {request : Request} {call : Call}
    (hrequest : event.request? = some request) (hcall : request.toCall = .ok call) :
    session.AdmitsTrial label event ↔
      call.label = label ∧ session.gateway.AdmitsTrial session.now call := by
  constructor
  · rintro ⟨request', call', hrequest', hcall', hadmits⟩
    rw [hrequest] at hrequest'
    cases hrequest'
    rw [hcall] at hcall'
    cases hcall'
    exact hadmits
  · rintro ⟨hlabel, hadmits⟩
    exact ⟨request, call, hrequest, hcall, hlabel, hadmits⟩

/-- A request without names is no call. -/
theorem not_admitsTrial_of_error {event : Event} {request : Request} {failure : Failure}
    (hrequest : event.request? = some request) (hcall : request.toCall = .error failure) :
    ¬ session.AdmitsTrial label event := by
  rintro ⟨request', call, hrequest', hcall', -⟩
  rw [hrequest] at hrequest'
  cases hrequest'
  rw [hcall] at hcall'
  cases hcall'

/-- A place that is taken after a call has begun was taken before, or the call is a trial that left
the gateway; what happens to it then takes no place. -/
theorem trialAt_startCall {event : Event} {request : Request} {reading : Reading}
    {goOn : Session → InFlight → Effects × Session} (hrequest : event.request? = some request)
    (hgoOn : ∀ session flight, ((goOn session flight).2.gateway.breakers.of label).trialAt = some t →
      (session.gateway.breakers.of label).trialAt = some t)
    (h : ((session.startCall s request reading goOn).2.gateway.breakers.of label).trialAt = some t) :
    (∃ flight, session.left? s request = some flight ∧ flight.call.label = label ∧
        flight.admission = .trial) ∨
      ¬ session.AdmitsTrial label event ∧ (session.gateway.breakers.of label).trialAt = some t := by
  have hbegun {call : Call} (hcall : request.toCall = .ok call)
      (h : ((session.gateway.start s session.now call).2.breakers.of label).trialAt = some t) :
      (∃ flight, session.left? s request = some flight ∧ flight.call.label = label ∧
          flight.admission = .trial) ∨
        ¬ session.AdmitsTrial label event ∧
          (session.gateway.breakers.of label).trialAt = some t := by
    rcases Gateway.trialAt_start h with ⟨hlabel, flight, hstart, htrial⟩ | ⟨hadmits, hbefore⟩
    · obtain ⟨-, -, -, -, rfl, -⟩ := Gateway.start_fst_eq_ok_iff.mp hstart
      exact Or.inl ⟨flight, left?_eq_some_iff.mpr ⟨_, hcall, hstart⟩, hlabel, htrial⟩
    · exact Or.inr ⟨mt (admitsTrial_iff hrequest hcall).mp hadmits, hbefore⟩
  rcases startCall_cases (s := s) session request reading goOn with
    ⟨failure, hcall, h'⟩ | ⟨call, r, hcall, -, h'⟩ | ⟨call, flight, hcall, -, h'⟩ <;> rw [h'] at h
  · exact Or.inr ⟨not_admitsTrial_of_error hrequest hcall, h⟩
  · exact hbegun hcall h
  · exact hbegun hcall (hgoOn _ _ h)

/-- A place that is taken after an event was taken before it, or the event starts a trial. In the
first case no call of the label was admitted as a trial, and no trial of it was completed. -/
theorem trialAt_step {event : Event}
    (h : ((session.step s event).2.gateway.breakers.of label).trialAt = some t) :
    (∃ id flight, session.BeginsTrial s label id event flight) ∨
      ¬ session.AdmitsTrial label event ∧
        (∀ flight reply, session.completes s event = some (flight, reply) →
          ¬ (flight.call.label = label ∧ flight.admission = .trial)) ∧
        (session.gateway.breakers.of label).trialAt = some t := by
  cases event with
  | call request reply reading =>
    rw [step] at h
    -- A trial that is answered at once has given its place back.
    have hother : ∀ flight, session.left? s request = some flight →
        ¬ (flight.call.label = label ∧ flight.admission = .trial) := by
      intro flight hleft
      obtain ⟨call, hcall, hstart⟩ := left?_eq_some_iff.mp hleft
      rw [startCall_of_ok hcall hstart, finishCall_snd] at h
      exact (Gateway.trialAt_finish h).1
    have hkeeps (session : Session) (flight : InFlight)
        (h : ((session.finishCall s [flight.request] flight (reply flight.request)
          reading).2.gateway.breakers.of label).trialAt = some t) :
        (session.gateway.breakers.of label).trialAt = some t := by
      rw [finishCall_snd] at h
      exact (Gateway.trialAt_finish h).2
    have hrequest : (Event.call request reply reading).request? = some request := rfl
    rcases trialAt_startCall hrequest hkeeps h with ⟨flight, hleft, htrial⟩ | ⟨hadmits, hbefore⟩
    · exact absurd htrial (hother flight hleft)
    · refine Or.inr ⟨hadmits, ?_, hbefore⟩
      intro flight reply' hdone
      obtain ⟨_, hleft, hsame⟩ := Option.map_eq_some_iff.mp hdone
      cases hsame
      exact hother _ hleft
  | start id request reading =>
    rw [step] at h
    have hrequest : (Event.start id request reading).request? = some request := rfl
    rcases trialAt_startCall hrequest (fun _ _ h => h) h with
      ⟨flight, hleft, hlabel, htrial⟩ | ⟨hadmits, hbefore⟩
    · exact Or.inl ⟨id, flight, ⟨request, reading, rfl, hleft⟩, hlabel, htrial⟩
    · exact Or.inr ⟨hadmits, by simp [completes], hbefore⟩
  | finish id reply reading =>
    have hnone : ¬ session.AdmitsTrial label (.finish id reply reading) := by
      simp [AdmitsTrial, Event.request?]
    rw [step_finish] at h
    cases hwaits : session.pending.get? id with
    | none =>
      rw [hwaits] at h
      exact Or.inr ⟨hnone, by simp [completes, hwaits], h⟩
    | some flight =>
      rw [hwaits, Option.elim_some, finishCall_snd] at h
      obtain ⟨hother, hbefore⟩ := Gateway.trialAt_finish h
      refine Or.inr ⟨hnone, ?_, hbefore⟩
      intro flight' reply' hdone
      rw [completes, hwaits, Option.map_some] at hdone
      cases hdone
      exact hother
  | drop id =>
    refine Or.inr ⟨by simp [AdmitsTrial, Event.request?], by simp [completes], ?_⟩
    rw [step_drop] at h
    cases hwaits : session.pending.get? id <;> rw [hwaits] at h <;> exact h
  | _ => exact Or.inr ⟨by simp [AdmitsTrial, Event.request?], by simp [completes], h⟩

/-! ## The trial that took the place last -/

/-- The waiting of a call ends when its caller goes away, when another call takes its name, or when
its reply comes. -/
theorem ends_cases {id : String} {event : Event} (h : session.ends s id event = true) :
    event = .drop id ∨ (∃ request reading, event = .start id request reading) ∨
      ∃ reply reading, event = .finish id reply reading := by
  cases event with
  | start id' request reading =>
    obtain rfl : id' = id := (by simpa [ends] using h : id' = id ∧ _).1
    exact Or.inr (Or.inl ⟨request, reading, rfl⟩)
  | finish id' reply reading =>
    obtain rfl : id' = id := by simpa [ends] using h
    exact Or.inr (Or.inr ⟨reply, reading, rfl⟩)
  | drop id' =>
    obtain rfl : id' = id := by simpa [ends] using h
    exact Or.inl rfl
  | _ => simp [ends] at h

/-- A call that waited under the name `id` still waits after some events, or was given up: its
caller went away or used the name for another call. -/
def WaitsOrGivenUp (s : Gateway.Settings) (session : Session) (id : String)
    (events : List Event) : Prop :=
  ∀ event ∈ session.ending? s id events,
    event = .drop id ∨ ∃ request reading, event = .start id request reading

/-- An event that does not complete a call lets it wait, or its caller gives it up. -/
theorem waitsOrGivenUp_concat {id : String} {events : List Event} {event : Event}
    {flight : InFlight} (hbegan : session.pending.get? id = some flight)
    (h : session.WaitsOrGivenUp s id events)
    (hdone : ∀ reply, (session.run s events).2.completes s event ≠ some (flight, reply)) :
    session.WaitsOrGivenUp s id (events ++ [event]) := by
  intro ender hender
  rw [ending?_append] at hender
  rcases Option.or_eq_some_iff.mp hender with hender | ⟨hwaiting, hender⟩
  · exact h ender hender
  · have hpending := (pending_run_of_ending?_eq_none hwaiting).trans hbegan
    unfold ending? at hender
    split at hender
    · cases hender
      rename_i hends
      rcases ends_cases hends with hdrop | hstart | ⟨reply, reading, rfl⟩
      · exact Or.inl hdrop
      · exact Or.inr hstart
      · refine absurd ?_ (hdone (reply flight.request))
        rw [completes, hpending, Option.map_some]
    · simp [ending?] at hender

/-- In a run from a session whose place for a trial of the label is free, a place that is taken at
the end was taken by the last call of the label that was admitted as a trial. This call started to
wait, and it still waits or was given up. -/
theorem exists_beginsTrial (events : List Event)
    (hfree : (session.gateway.breakers.of label).trialAt = none)
    (h : ((session.run s events).2.gateway.breakers.of label).trialAt = some t) :
    ∃ earlier event rest id flight, events = earlier ++ event :: rest ∧
      (session.run s earlier).2.BeginsTrial s label id event flight ∧
      (∀ mid later after, rest = mid ++ later :: after →
        ¬ (session.run s (earlier ++ event :: mid)).2.AdmitsTrial label later) ∧
      (session.run s (earlier ++ [event])).2.WaitsOrGivenUp s id rest := by
  induction events using List.reverseRecOn with
  | nil =>
    rw [run, hfree] at h
    cases h
  | append_singleton events event ih =>
    have hlast : (session.run s (events ++ [event])).2 =
        ((session.run s events).2.step s event).2 := by rw [run_append]; rfl
    rw [hlast] at h
    rcases trialAt_step h with ⟨id, flight, hbegins⟩ | ⟨hadmits, hdone, hbefore⟩
    · exact ⟨events, event, [], id, flight, rfl, hbegins, by simp, by simp [WaitsOrGivenUp, ending?]⟩
    · obtain ⟨earlier, begin, rest, id, flight, rfl, hbegins, hlatest, hwaits⟩ := ih hbefore
      refine ⟨earlier, begin, rest ++ [event], id, flight, by simp, hbegins, ?_, ?_⟩
      · intro mid later after hsplit
        rcases List.eq_nil_or_concat after with rfl | ⟨after, last, rfl⟩
        · obtain ⟨rfl, hevent⟩ := List.append_inj' hsplit rfl
          cases hevent
          exact hadmits
        · have hrest : rest = mid ++ later :: after := by
            rw [List.concat_eq_append, ← List.cons_append, ← List.append_assoc] at hsplit
            exact (List.append_inj' hsplit rfl).1
          exact hlatest mid later after hrest
      · have hstarted : (session.run s (earlier ++ [begin])).2 =
            ((session.run s earlier).2.step s begin).2 := by rw [run_append]; rfl
        have hreached : ((session.run s (earlier ++ [begin])).2.run s rest).2 =
            (session.run s (earlier ++ begin :: rest)).2 := by
          rw [run_append, run_append]
          rfl
        refine waitsOrGivenUp_concat (hstarted ▸ hbegins.waits) hwaits fun reply hcompleted => ?_
        rw [hreached] at hcompleted
        exact hdone flight reply hcompleted ⟨hbegins.label_eq, hbegins.admission_eq⟩

/-- Let a run begin at a gateway that has seen no call. If the breaker of a label has a trial in its
place, then the last call of the label that was admitted as a trial started to wait, and it has not
been completed: it still waits, or its caller went away or gave its name to another call. And every
trial that is completed, with whatever reply, leaves the place free. -/
theorem latest_trial_not_completed (s : Gateway.Settings) (registry : Registry)
    (policy : Trust.Policy) (events : List Event) (label : String) :
    let begun := Session.new (Gateway.new registry policy)
    let later := (begun.run s events).2
    ((later.gateway.breakers.of label).trialAt.isSome →
        ∃ earlier event rest id flight, events = earlier ++ event :: rest ∧
          (begun.run s earlier).2.BeginsTrial s label id event flight ∧
          (∀ mid next after, rest = mid ++ next :: after →
            ¬ (begun.run s (earlier ++ event :: mid)).2.AdmitsTrial label next) ∧
          (later.pending.get? id = some flight ∨
            ∃ ender, (begun.run s (earlier ++ [event])).2.ending? s id rest = some ender ∧
              (ender = .drop id ∨ ∃ request reading, ender = .start id request reading))) ∧
      ∀ event flight reply, later.completes s event = some (flight, reply) →
        flight.admission = .trial →
          ((later.step s event).2.gateway.breakers.of flight.call.label).trialAt = none := by
  intro begun later
  refine ⟨?_, ?_⟩
  · intro htaken
    obtain ⟨t, ht⟩ := Option.isSome_iff_exists.mp htaken
    obtain ⟨earlier, event, rest, id, flight, rfl, hbegins, hlatest, hwaits⟩ :=
      exists_beginsTrial events rfl ht
    refine ⟨earlier, event, rest, id, flight, rfl, hbegins, hlatest, ?_⟩
    have hstarted : (begun.run s (earlier ++ [event])).2 =
        ((begun.run s earlier).2.step s event).2 := by rw [run_append]; rfl
    have hreached : later = ((begun.run s (earlier ++ [event])).2.run s rest).2 := by
      simp only [later, run_append]
      rfl
    cases hending : (begun.run s (earlier ++ [event])).2.ending? s id rest with
    | none =>
      left
      rw [hreached, pending_run_of_ending?_eq_none hending, hstarted]
      exact hbegins.waits
    | some ender => exact Or.inr ⟨ender, rfl, hwaits ender hending⟩
  · intro event flight reply hdone htrial
    rw [Option.eq_none_iff_forall_ne_some]
    intro t ht
    rcases trialAt_step ht with ⟨id, flight', hbegins⟩ | ⟨-, hnone, -⟩
    · obtain ⟨request, reading, rfl, -⟩ := hbegins.starts
      simp [completes] at hdone
    · exact hnone flight reply hdone ⟨rfl, htrial⟩

/-- A trial whose caller goes away keeps the place, although nobody waits any more. -/
theorem latest_trial_not_completed_of_drop :
    let s : Gateway.Settings := ⟨60, 60 * Time.second, none⟩
    let request : Request := ⟨"me", "s", "echo", [0x7b, 0x7d]⟩
    let begun := Session.new (Gateway.new [] .empty)
    let events : List Event := [.addDefault ⟨"*", .auto, 0⟩,
      .register ⟨"s", "http://127.0.0.1:9100", .none, none, true,
        some "\x7b\"fail_threshold\":1\x7d"⟩,
      .call request (fun _ => .ok ⟨500, .null⟩) ⟨0, 0⟩, .advance (30 * Time.second),
      .start "trial" request ⟨0, 0⟩, .drop "trial"]
    let later := (begun.run s events).2
    (later.gateway.breakers.of "s").trialAt.isSome ∧ later.pending.isEmpty ∧
      ∃ earlier event rest id flight ender, events = earlier ++ event :: rest ∧
        (begun.run s earlier).2.BeginsTrial s "s" id event flight ∧
        (begun.run s (earlier ++ [event])).2.ending? s id rest = some ender ∧
        (ender = .drop id ∨ ∃ request reading, ender = .start id request reading) := by
  intro s request begun events later
  have htaken : (later.gateway.breakers.of "s").trialAt.isSome := by decide +kernel +revert
  have hnobody : later.pending.isEmpty := by decide +kernel +revert
  clear_value s events
  refine ⟨htaken, hnobody, ?_⟩
  obtain ⟨earlier, event, rest, id, flight, hsplit, hbegins, -, hwaits | ⟨ender, hender, hgiven⟩⟩ :=
    (latest_trial_not_completed s [] .empty events "s").1 htaken
  · have hempty : later.pending = [] := List.isEmpty_iff.mp hnobody
    rw [hempty] at hwaits
    cases hwaits
  · exact ⟨earlier, event, rest, id, flight, ender, hsplit, hbegins, hender, hgiven⟩

end Session

end ToolGateway
