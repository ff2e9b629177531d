import ToolGateway.Proofs.Breaker.Trial
import ToolGateway.Proofs.Gateway.BreakerLog

/-!
# Trials that overlap

A trial that nobody answers keeps others out for one blackout. After that the next call is a trial
too, while the first may still be waiting. The two must not come closer together than this, and
they do not, with one exception. The place for the trial has no owner: an older trial that ends
without evidence about the tool server gives back the place that a younger one has taken, and the
next call is admitted beside it.

`admitted_beside_young_trial_iff` says exactly when this happens, for every run in which the
record of the label keeps its blackout.
-/

namespace ToolGateway

/-- Whatever breaker settings the record of a label has, they have this blackout. -/
def Gateway.KeepsBlackout (g : Gateway) (label : String) (blackout : Nat) : Prop :=
  ∀ server breaker, g.registry.get? label = some server →
    Breaker.Settings.parse? server.breaker = some breaker → breaker.blackout = blackout

/-- An event adds no record of a label with another blackout. -/
def Event.KeepsBlackout (label : String) (blackout : Nat) : Event → Prop
  | .register server => server.label = label → ∀ breaker,
      Breaker.Settings.parse? server.breaker = some breaker → breaker.blackout = blackout
  | _ => True

namespace Session

variable {s : Gateway.Settings} {session : Session} {label : String} {blackout : Nat}

/-- A record keeps its blackout if no event gives it another. -/
theorem keepsBlackout_step {event : Event} (hg : session.gateway.KeepsBlackout label blackout)
    (he : event.KeepsBlackout label blackout) :
    (session.step s event).2.gateway.KeepsBlackout label blackout := by
  intro server breaker hget hparse
  rw [registry_step] at hget
  cases event with
  | register added =>
    simp only [Registry.register, Table.get?_insert] at hget
    by_cases hadded : added.label = label
    · rw [if_pos hadded, Option.some.injEq] at hget
      exact he hadded breaker (hget ▸ hparse)
    · rw [if_neg hadded] at hget
      exact hg server breaker hget hparse
  | _ => exact hg server breaker hget hparse

/-- The uses of a breaker in a run are not earlier than the run, and its calls ask under the
blackout that is kept. -/
theorem mem_log {events : List Event} {e : Breaker.Event}
    (hg : session.gateway.KeepsBlackout label blackout)
    (hevents : ∀ event ∈ events, event.KeepsBlackout label blackout)
    (h : (label, e) ∈ session.log s events) :
    session.now ≤ e.time ∧ ∀ breaker, e.use = .attempt breaker → breaker.blackout = blackout := by
  induction events generalizing session with
  | nil => simp [log] at h
  | cons event events ih =>
    rcases List.mem_append.mp h with h | h
    · obtain ⟨htime, hasks⟩ := mem_uses h
      refine ⟨Nat.le_of_eq htime.symm, ?_⟩
      intro breaker hbreaker
      obtain ⟨server, hresolve⟩ := hasks breaker hbreaker
      obtain ⟨-, hget, -, hparse⟩ := Gateway.resolve_eq_ok_iff.mp hresolve
      exact hg server breaker hget hparse
    · have hstep := keepsBlackout_step (s := s) hg (hevents event List.mem_cons_self)
      obtain ⟨hlate, hasks⟩ := ih hstep (fun e he => hevents e (List.mem_cons_of_mem _ he)) h
      have hnow := now_step (s := s) session event
      exact ⟨by omega, hasks⟩

/-! ## While a trial is young -/

/-- The breaker of the label is open, and a trial has held its place for less than one blackout. -/
def Occupied (session : Session) (label : String) (blackout : Nat) : Prop :=
  ∃ n since began, session.gateway.breakers.of label = .opened n since (some began) ∧
    session.now - began < blackout

/-- An occupied breaker refuses every call. -/
theorem attempt_of_occupied (h : session.Occupied label blackout) {breaker : Breaker.Settings}
    (hblackout : breaker.blackout = blackout) :
    session.gateway.breakers.attempt label breaker session.now =
      (none, session.gateway.breakers.take label ⟨session.now, .attempt breaker⟩) := by
  obtain ⟨n, since, began, hof, hyoung⟩ := h
  refine Prod.ext ?_ rfl
  rw [Breakers.attempt_fst, hof]
  simp only [Breaker.openedAt, Breaker.trialAt, Breaker.answer, hblackout]
  rw [if_neg]
  intro hfree
  exact Nat.not_le.mpr hyoung (hfree.2 began rfl)

/-- No call passes an occupied breaker. -/
theorem start_of_occupied (h : session.Occupied label blackout)
    (hg : session.gateway.KeepsBlackout label blackout) {call : Call} (hlabel : call.label = label)
    (flight : InFlight) : (session.gateway.start s session.now call).1 ≠ .ok flight := by
  intro hstart
  obtain ⟨server, hresolve, hattempt, -⟩ := Gateway.start_fst_eq_ok_iff.mp hstart
  obtain ⟨-, hget, -, hparse⟩ := Gateway.resolve_eq_ok_iff.mp hresolve
  rw [hlabel] at hget hattempt
  rw [attempt_of_occupied h (hg server flight.breaker hget hparse)] at hattempt
  contradiction

/-- A call to an occupied breaker only asks. -/
theorem startUses_of_occupied (h : session.Occupied label blackout)
    (hg : session.gateway.KeepsBlackout label blackout) {call : Call}
    (hlabel : call.label = label) :
    ∀ e ∈ session.gateway.startUses s session.now call, ∃ breaker, e.use = .attempt breaker := by
  unfold Gateway.startUses
  cases hresolve : session.gateway.resolve call.label with
  | error r => simp
  | ok found =>
    obtain ⟨server, breaker⟩ := found
    obtain ⟨-, hget, -, hparse⟩ := Gateway.resolve_eq_ok_iff.mp hresolve
    rw [hlabel] at hget ⊢
    dsimp only
    rw [attempt_of_occupied h (hg server breaker hget hparse)]
    simp

/-- An occupied breaker that is only asked stays as it is. -/
theorem of_step_of_occupied {event : Event} (h : session.Occupied label blackout)
    (hg : session.gateway.KeepsBlackout label blackout)
    (hasks : ∀ e ∈ Breakers.usesOf label (session.uses s event),
      ∃ breaker, e.use = .attempt breaker) :
    (session.step s event).2.gateway.breakers.of label = session.gateway.breakers.of label := by
  have hrefused : ∀ e ∈ Breakers.usesOf label (session.uses s event),
      (session.gateway.breakers.of label).take e = session.gateway.breakers.of label := by
    intro e he
    obtain ⟨breaker, hbreaker⟩ := hasks e he
    obtain ⟨htime, hresolve⟩ := mem_uses (Breakers.mem_usesOf.mp he)
    obtain ⟨server, hresolve⟩ := hresolve breaker hbreaker
    obtain ⟨-, hget, -, hparse⟩ := Gateway.resolve_eq_ok_iff.mp hresolve
    have hblackout := hg server breaker hget hparse
    obtain ⟨n, since, began, hof, hyoung⟩ := h
    obtain ⟨time, use⟩ := e
    dsimp only at htime hbreaker
    subst htime hbreaker
    rw [hof]
    refine (Breaker.attempt_snd_opened n since breaker.blackout session.now (some began)).trans ?_
    rw [if_neg]
    rw [Breaker.answer_some_eq_trial_iff, hblackout]
    exact fun hfree => Nat.not_le.mpr hyoung (hfree.2 began rfl)
  rw [breakers_step, Breakers.of_takeAll]
  generalize Breakers.usesOf label (session.uses s event) = uses at hrefused
  induction uses with
  | nil => rfl
  | cons e uses ih =>
    rw [List.foldl_cons, hrefused e List.mem_cons_self]
    exact ih fun e' he' => hrefused e' (List.mem_cons_of_mem _ he')

/-- The event in which a trial of a label that waits under the name `id` ends without evidence. -/
structure EndsTrial (session : Session) (label id : String) (event : Event) (trial : InFlight) :
    Prop where
  waits : session.pending.get? id = some trial
  label_eq : trial.call.label = label
  admission_eq : trial.admission = .trial
  ends : ∃ reply reading cause, event = .finish id reply reading ∧
    reply trial.request = .error cause ∧ cause.isEvidence = false

/-- An event that reports nothing to an occupied breaker only asks, unless it ends an older
trial. -/
theorem asks_or_endsTrial {event : Event} (h : session.Occupied label blackout)
    (hg : session.gateway.KeepsBlackout label blackout)
    (hquiet : ∀ e ∈ Breakers.usesOf label (session.uses s event), e.use.isReport = false) :
    (∀ e ∈ Breakers.usesOf label (session.uses s event), ∃ breaker, e.use = .attempt breaker) ∨
      ∃ id trial, session.EndsTrial label id event trial := by
  have hbegin {request : Request} {goOn : InFlight → List Breaker.Event} (e : Breaker.Event)
      (he : (label, e) ∈ session.beginUses s request goOn) :
      ∃ breaker, e.use = .attempt breaker := by
    obtain ⟨call, -, hlabel, he⟩ := mem_beginUses he
    rcases he with he | ⟨flight, hstart, -⟩
    · exact startUses_of_occupied h hg hlabel.symm e he
    · exact absurd hstart (start_of_occupied h hg hlabel.symm flight)
  cases event with
  | call request reply reading => exact Or.inl fun e he => hbegin e (Breakers.mem_usesOf.mp he)
  | start id request reading => exact Or.inl fun e he => hbegin e (Breakers.mem_usesOf.mp he)
  | finish id reply reading =>
    rw [uses] at hquiet ⊢
    cases hwaits : session.pending.get? id with
    | none => simp [Breakers.usesOf]
    | some flight =>
      rw [hwaits, Option.elim_some, Gateway.usesOf_labelled] at hquiet
      rw [Option.elim_some, Gateway.usesOf_labelled]
      by_cases hlabel : flight.call.label = label
      · rw [if_pos hlabel] at hquiet ⊢
        cases hreply : reply flight.request with
        | ok answer =>
          have hreport := hquiet _ (by rw [hreply]; exact List.mem_singleton_self _)
          by_cases hstatus : 500 ≤ answer.status <;>
            simp [hstatus, Breaker.Use.isReport] at hreport
        | error cause =>
          cases hcause : cause.isEvidence with
          | true =>
            simp [hreply, hcause, Gateway.finishUses, Breaker.Use.isReport] at hquiet
          | false =>
            cases hadmission : flight.admission with
            | ordinary => simp [hcause, hadmission, Gateway.finishUses]
            | trial =>
              exact Or.inr ⟨id, flight, hwaits, hlabel, hadmission, reply, reading, cause, rfl,
                hreply, hcause⟩
      · simp [hlabel]
  | _ => exact Or.inl fun e he => by simp [uses, Breakers.usesOf] at he

/-- No call of the label starts to wait while its breaker is occupied. -/
theorem pending_of_occupied {event : Event} (h : session.Occupied label blackout)
    (hg : session.gateway.KeepsBlackout label blackout) {id : String} {flight : InFlight}
    (hwaits : (session.step s event).2.pending.get? id = some flight)
    (hlabel : flight.call.label = label) : session.pending.get? id = some flight := by
  rcases pending_of_pending_step hwaits with hbefore | ⟨request, reading, call, -, -, hstart⟩
  · exact hbefore
  · obtain ⟨server, -, -, -, hcall, -⟩ := Gateway.start_fst_eq_ok_iff.mp hstart
    exact absurd hstart (start_of_occupied h hg (hcall ▸ hlabel) flight)

/-- If an occupied breaker is given back in a run without reports, a trial did so that waited at
the beginning of the run. -/
theorem exists_endsTrial {events : List Event} {n since began : Nat}
    (hof : session.gateway.breakers.of label = .opened n since (some began))
    (hyoung : (session.run s events).2.now - began < blackout)
    (hg : session.gateway.KeepsBlackout label blackout)
    (hevents : ∀ event ∈ events, event.KeepsBlackout label blackout)
    (hgave : Breaker.GaveBack (Breakers.usesOf label (session.log s events))) :
    ∃ earlier event later id trial, events = earlier ++ event :: later ∧
      (session.run s earlier).2.EndsTrial label id event trial ∧
      session.pending.get? id = some trial := by
  induction events generalizing session with
  | nil =>
    obtain ⟨-, e, he, -⟩ := hgave
    simp [log, Breakers.usesOf] at he
  | cons event events ih =>
    have hoccupied : session.Occupied label blackout := by
      have hnow := now_le_run (s := s) session (event :: events)
      exact ⟨n, since, began, hof, by omega⟩
    rw [log, Breakers.usesOf_append] at hgave
    obtain ⟨hquiet, last, hlast, hrelease⟩ := hgave
    rcases asks_or_endsTrial hoccupied hg fun e he => hquiet e (List.mem_append_left _ he) with
      hasks | ⟨id, trial, hends⟩
    · -- The place is still taken, so the release comes later.
      have hafter : last ∈
          (Breakers.usesOf label ((session.step s event).2.log s events)).getLast? := by
        rw [List.getLast?_append] at hlast
        rcases Option.or_eq_some_iff.mp hlast with hlast | ⟨-, hlast⟩
        · exact hlast
        · obtain ⟨breaker, hbreaker⟩ := hasks last (List.mem_of_getLast? hlast)
          rw [hbreaker] at hrelease
          contradiction
      obtain ⟨earlier, ender, later, id, trial, rfl, hends, hwaits⟩ :=
        @ih (session.step s event).2 ((of_step_of_occupied hoccupied hg hasks).trans hof) hyoung
          (keepsBlackout_step hg (hevents event List.mem_cons_self))
          (fun e he => hevents e (List.mem_cons_of_mem _ he))
          ⟨fun e he => hquiet e (List.mem_append_right _ he), last, hafter, hrelease⟩
      exact ⟨event :: earlier, ender, later, id, trial, rfl, hends,
        pending_of_occupied hoccupied hg hwaits hends.label_eq⟩
    · exact ⟨[], event, events, id, trial, rfl, hends, hends.waits⟩

/-- A call that is admitted as a trial takes the place at an open breaker whose blackout is over. -/
theorem of_start_of_trial {call : Call} {flight : InFlight}
    (hstart : (session.gateway.start s session.now call).1 = .ok flight)
    (htrial : flight.admission = .trial) :
    ∃ n since, flight.breaker.blackout ≤ session.now - since ∧
      (session.gateway.start s session.now call).2.breakers.of call.label =
        .opened n since (some session.now) := by
  obtain ⟨server, -, hattempt, -⟩ := Gateway.start_fst_eq_ok_iff.mp hstart
  rw [htrial] at hattempt
  obtain ⟨n, since, hover, htakes⟩ := Breaker.attempt_of_trial hattempt
  refine ⟨n, since, hover, ?_⟩
  rw [Gateway.breakers_start, Gateway.startUses_of_ok hstart, Breakers.of_takeAll,
    Gateway.usesOf_labelled, if_pos rfl]
  exact htakes

/-- A call that starts as a trial waits, and takes the place at an open breaker. -/
theorem step_start_of_trial {request : Request} {call : Call} {flight : InFlight}
    (hg : session.gateway.KeepsBlackout label blackout) (hcall : request.toCall = .ok call)
    (hlabel : call.label = label)
    (hstart : (session.gateway.start s session.now call).1 = .ok flight)
    (htrial : flight.admission = .trial) (id : String) (reading : Reading) :
    let begun := (session.step s (.start id request reading)).2
    flight.since = session.now ∧ begun.now = session.now ∧
      begun.gateway.KeepsBlackout label blackout ∧ begun.pending.get? id = some flight ∧
      ∃ n since, blackout ≤ session.now - since ∧
        begun.gateway.breakers.of label = .opened n since (some session.now) := by
  intro begun
  obtain ⟨server, hresolve, -, -, -, hsince⟩ := Gateway.start_fst_eq_ok_iff.mp hstart
  obtain ⟨-, hget, -, hparse⟩ := Gateway.resolve_eq_ok_iff.mp hresolve
  have hblackout : flight.breaker.blackout = blackout :=
    hg server flight.breaker (hlabel ▸ hget) hparse
  obtain ⟨n, since, hover, hof⟩ := of_start_of_trial hstart htrial
  rw [hblackout] at hover
  have hbegun := congrArg Prod.snd (step_start_of_ok hcall hstart id reading)
  have hnow : begun.now = session.now := (congrArg Session.now hbegun).trans rfl
  refine ⟨hsince, hnow, keepsBlackout_step hg trivial, ?_, n, since, hover, ?_⟩
  · rw [congrArg Session.pending hbegun]
    exact Table.get?_insert_self _ _ _
  · rw [congrArg Session.gateway hbegun, ← hlabel]
    exact hof

/-- While the trial of an open breaker is young, another call is admitted if and only if the place
was given back. -/
theorem attempt_after_trial_iff {events : List Event} {breaker : Breaker.Settings} {n since : Nat}
    (hof : session.gateway.breakers.of label = .opened n since (some session.now))
    (hover : blackout ≤ session.now - since)
    (hyoung : (session.run s events).2.now < session.now + blackout)
    (hg : session.gateway.KeepsBlackout label blackout)
    (hevents : ∀ event ∈ events, event.KeepsBlackout label blackout)
    (hbreaker : breaker.blackout = blackout) :
    let later := (session.run s events).2
    (later.gateway.breakers.attempt label breaker later.now).1 = some .trial ↔
      Breaker.GaveBack (Breakers.usesOf label (session.log s events)) := by
  intro later
  have huses (e : Breaker.Event) (he : e ∈ Breakers.usesOf label (session.log s events)) :=
    mem_log hg hevents (Breakers.mem_usesOf.mp he)
  have hfold : later.gateway.breakers.of label =
      (Breakers.usesOf label (session.log s events)).foldl Breaker.take
        (.opened n since (some session.now)) := by
    rw [← hof, ← Breakers.of_takeAll, ← breakers_run]
  rw [Breakers.attempt_fst, ← Breaker.attempt_fst, hfold, hbreaker]
  exact Breaker.attempt_eq_trial_iff_gaveBack hover (now_le_run session events) hyoung
    (fun e he => (huses e he).1) fun e he => (huses e he).2

/-- Let a call of a label be admitted as a trial and wait, while the record of the label keeps its
blackout. Before the trial is one blackout old, another call is admitted beside it if and only if
since then no call of the label was reported and the last use of its breaker was that of a trial
that gave its place back. The trial that waits has not done so: the first to give it back was one
that waited already when this trial was admitted. -/
theorem admitted_beside_young_trial_iff {id : String} {request : Request} {reading : Reading}
    {call : Call} {flight : InFlight} {events : List Event} {breaker : Breaker.Settings}
    (hg : session.gateway.KeepsBlackout label blackout)
    (hevents : ∀ event ∈ events, event.KeepsBlackout label blackout)
    (hbreaker : breaker.blackout = blackout)
    (hcall : request.toCall = .ok call) (hlabel : call.label = label)
    (hstart : (session.gateway.start s session.now call).1 = .ok flight)
    (htrial : flight.admission = .trial) (hwaits : ∀ event ∈ events, ¬ event.names id) :
    let begun := (session.step s (.start id request reading)).2
    let later := (begun.run s events).2
    later.now < flight.since + blackout →
      later.pending.get? id = some flight ∧
      ((later.gateway.breakers.attempt label breaker later.now).1 = some .trial ↔
        Breaker.GaveBack (Breakers.usesOf label (begun.log s events))) ∧
      (Breaker.GaveBack (Breakers.usesOf label (begun.log s events)) →
        ∃ earlier event rest id' trial, events = earlier ++ event :: rest ∧ id' ≠ id ∧
          session.pending.get? id' = some trial ∧
          (begun.run s earlier).2.EndsTrial label id' event trial) := by
  intro begun later hyoung
  obtain ⟨hsince, hnow, hkept, hwaiting, n, since, hover, hof⟩ :=
    step_start_of_trial hg hcall hlabel hstart htrial id reading
  rw [hsince, ← hnow] at hyoung
  rw [← hnow] at hover hof
  have hadmits := attempt_after_trial_iff hof hover hyoung hkept hevents hbreaker
  refine ⟨(pending_run_of_not_names hwaits).trans hwaiting, hadmits, ?_⟩
  intro hgave
  have hage : later.now - begun.now < blackout :=
    Nat.sub_lt_left_of_lt_add (now_le_run begun events) hyoung
  obtain ⟨earlier, event, rest, id', trial, hsplit, hends, hbegan⟩ :=
    exists_endsTrial hof hage hkept hevents hgave
  have hother : id' ≠ id := by
    obtain ⟨reply, reading', cause, rfl, -⟩ := hends.ends
    have hmem : Event.finish id' reply reading' ∈ events := by
      rw [hsplit]
      exact List.mem_append_right _ List.mem_cons_self
    exact hwaits _ hmem
  refine ⟨earlier, event, rest, id', trial, hsplit, hother, ?_, hends⟩
  have hnames : ¬ Event.names id' (.start id request reading) := hother.symm
  rw [← hbegan]
  exact (pending_step_of_not_names hnames).symm

/-- A trial that waits for one blackout makes room for a second one. When the answer to the first
turns out too large to read, a third call is admitted beside the second at once. -/
theorem admitted_beside_young_trial_of_oversized_answer :
    let s : Gateway.Settings := ⟨60, 60 * Time.second, none⟩
    let request : Request := ⟨"me", "s", "echo", [0x7b, 0x7d]⟩
    let session := ((Session.new (Gateway.new [] .empty)).run s
      [.addDefault ⟨"*", .auto, 0⟩,
        .register ⟨"s", "http://127.0.0.1:9100", .none, none, true,
          some "\x7b\"fail_threshold\":1\x7d"⟩,
        .call request (fun _ => .ok ⟨500, .null⟩) ⟨0, 0⟩, .advance (30 * Time.second),
        .start "old" request ⟨0, 0⟩, .advance (30 * Time.second)]).2
    let later := (((session.step s (.start "young" request ⟨0, 0⟩)).2).run s
      [.finish "old" (fun _ => .error (.tooLarge 65536)) ⟨0, 0⟩]).2
    (later.pending.get? "young").map (fun flight => (flight.admission, flight.since)) =
        some (.trial, later.now) ∧
      (later.gateway.breakers.attempt "s" ⟨1, 30 * Time.second⟩ later.now).1 = some .trial := by
  intro s request session later
  have hfound : (session.gateway.registry.get? "s").bind
      (fun server => Breaker.Settings.parse? server.breaker) = some ⟨1, 30 * Time.second⟩ := by
    decide +kernel +revert
  have hwaits : (later.pending.get? "young").map (fun flight => (flight.admission, flight.since)) =
      some (.trial, later.now) := by
    decide +kernel +revert
  have hlast : Breakers.usesOf "s" ((session.step s (.start "young" request ⟨0, 0⟩)).2.log s
      [.finish "old" (fun _ => .error (.tooLarge 65536)) ⟨0, 0⟩]) = [⟨later.now, .release⟩] := by
    decide +kernel +revert
  have hbefore : session.pending.get? "young" = none := Option.isNone_iff_eq_none.mp (by
    decide +kernel +revert)
  have hbegun : ((session.step s (.start "young" request ⟨0, 0⟩)).2.pending.get? "young").map
      (fun flight => (flight.call.label, flight.admission, flight.since)) =
        some ("s", .trial, later.now) := by
    decide +kernel +revert
  clear_value s request session
  have hg : session.gateway.KeepsBlackout "s" (30 * Time.second) := by
    intro server breaker hget hbreaker
    rw [hget, Option.bind_some, hbreaker, Option.some.injEq] at hfound
    rw [hfound]
  obtain ⟨flight, hyoung, hflight⟩ := Option.map_eq_some_iff.mp hbegun
  obtain ⟨hlabel, htrial, hsince⟩ : flight.call.label = "s" ∧ flight.admission = .trial ∧
      flight.since = later.now := by simpa using hflight
  rcases pending_of_pending_step hyoung with hold | ⟨request', reading, call, hevent, hcall, hstart⟩
  · simp [hbefore] at hold
  · simp only [Event.start.injEq, true_and] at hevent
    obtain ⟨rfl, rfl⟩ := hevent
    obtain ⟨-, -, -, -, rfl, -⟩ := Gateway.start_fst_eq_ok_iff.mp hstart
    have hblackout : Breaker.Settings.blackout ⟨1, 30 * Time.second⟩ = 30 * Time.second := rfl
    refine ⟨hwaits, (admitted_beside_young_trial_iff hg ?_ hblackout hcall hlabel hstart htrial
      ?_ ?_).2.1.mpr ?_⟩
    · simp [Event.KeepsBlackout]
    · simp [Event.names]
    · change later.now < _
      rw [hsince]
      exact Nat.lt_add_of_pos_right (by decide)
    · rw [hlast]
      simp [Breaker.GaveBack, Breaker.Use.isReport]

end Session

end ToolGateway
