import ToolGateway.Proofs.Breaker.History
import ToolGateway.Proofs.Gateway.Checks
import ToolGateway.Proofs.Gateway.Run

/-!
# What a session does to its breakers

Every event of a session uses breakers in a fixed way: a call that comes as far as its breaker
asks for admission, a rejected trial gives its place back, and a reply that says something about
the tool server is reported. The log of a run lists these uses in order, and the breakers after
the run are those that the log makes (`breakers_run`). So what holds of breakers by their uses
holds of those of every session, however its calls overlap.
-/

namespace ToolGateway

namespace Gateway

/-- The uses of its breaker when a call begins. -/
def startUses (g : Gateway) (s : Settings) (now : Nat) (call : Call) : List Breaker.Event :=
  match g.resolve call.label with
  | .error _ => []
  | .ok (server, breaker) =>
    ⟨now, .attempt breaker⟩ ::
      match (g.breakers.attempt call.label breaker now).1, (g.prepare s now call server).1 with
      | some .trial, .error r => if r.recorded then [] else [⟨now, .release⟩]
      | _, _ => []

/-- The uses of its breaker when a reply to a call comes in. -/
def finishUses (now : Nat) (flight : InFlight) (reply : Reply) : List Breaker.Event :=
  match reply with
  | .ok answer => [⟨now, if 500 ≤ answer.status then .failure flight.breaker else .success⟩]
  | .error cause =>
    if cause.isEvidence then [⟨now, .failure flight.breaker⟩]
    else if flight.admission = .trial then [⟨now, .release⟩] else []

/-- Uses of one breaker, each with its label. -/
def labelled (label : String) (uses : List Breaker.Event) : List (String × Breaker.Event) :=
  uses.map (label, ·)

/-- Uses of one breaker are those of its label and of no other. -/
theorem usesOf_labelled (label other : String) (uses : List Breaker.Event) :
    Breakers.usesOf other (labelled label uses) = if label = other then uses else [] := by
  by_cases h : label = other <;>
    simp [Breakers.usesOf, labelled, List.filter_map, Function.comp_def, h]

/-- A call that begins uses its breaker at once, and asks under the settings in its record. -/
theorem mem_startUses {g : Gateway} {s : Settings} {now : Nat} {call : Call} {e : Breaker.Event}
    (h : e ∈ g.startUses s now call) :
    e.time = now ∧ ∀ breaker, e.use = .attempt breaker →
      ∃ server, g.resolve call.label = .ok (server, breaker) := by
  unfold startUses at h
  cases hresolve : g.resolve call.label with
  | error r => simp [hresolve] at h
  | ok found =>
    obtain ⟨server, breaker⟩ := found
    rw [hresolve] at h
    rcases List.mem_cons.mp h with rfl | h
    · refine ⟨rfl, ?_⟩
      rintro breaker' hbreaker
      obtain rfl : breaker = breaker' := by simpa using hbreaker
      exact ⟨server, rfl⟩
    · split at h
      · split at h
        · simp at h
        · obtain rfl := List.mem_singleton.mp h
          exact ⟨rfl, by simp⟩
      · simp at h

/-- A call that leaves the gateway has only asked. -/
theorem startUses_of_ok {g : Gateway} {s : Settings} {now : Nat} {call : Call} {flight : InFlight}
    (h : (g.start s now call).1 = .ok flight) :
    g.startUses s now call = [⟨now, .attempt flight.breaker⟩] := by
  obtain ⟨server, hresolve, -, hprepare, -, -⟩ := start_fst_eq_ok_iff.mp h
  unfold startUses
  rw [hresolve]
  dsimp only
  rw [hprepare]
  split
  · contradiction
  · rfl

/-- A reply uses the breaker of its call at once and asks for nothing. -/
theorem mem_finishUses {now : Nat} {flight : InFlight} {reply : Reply} {e : Breaker.Event}
    (h : e ∈ finishUses now flight reply) : e.time = now ∧ ∀ breaker, e.use ≠ .attempt breaker := by
  unfold finishUses at h
  cases reply with
  | ok answer =>
    obtain rfl := List.mem_singleton.mp h
    refine ⟨rfl, ?_⟩
    intro breaker
    by_cases hs : 500 ≤ answer.status <;> simp [hs]
  | error cause =>
    cases hc : cause.isEvidence <;> cases ha : flight.admission <;> simp [hc, ha] at h <;>
      simp [h]

/-- A call that begins does to the breakers what its uses do. -/
theorem breakers_start (g : Gateway) (s : Settings) (now : Nat) (call : Call) :
    (g.start s now call).2.breakers =
      g.breakers.takeAll (labelled call.label (g.startUses s now call)) := by
  unfold start startUses
  cases g.resolve call.label with
  | error r => rfl
  | ok found =>
    obtain ⟨server, breaker⟩ := found
    have hattempt : (g.breakers.attempt call.label breaker now).2 =
        g.breakers.take call.label ⟨now, .attempt breaker⟩ := rfl
    dsimp only
    rcases hasked : g.breakers.attempt call.label breaker now with ⟨admission, breakers⟩
    rw [hasked] at hattempt
    subst hattempt
    cases admission with
    | none => rfl
    | some admission =>
      rcases g.prepare s now call server with ⟨outcome, limiter⟩
      cases outcome with
      | ok ready => cases admission <;> rfl
      | error r =>
        cases admission with
        | ordinary => rfl
        | trial =>
          cases hr : r.recorded with
          | true => simp [settle, hr, labelled, Breakers.takeAll]
          | false =>
            simp [settle, hr, labelled, Breakers.takeAll]
            rfl

/-- A reply does to the breakers what its uses do. -/
theorem breakers_finish (g : Gateway) (now : Nat) (flight : InFlight) (reply : Reply) :
    (g.finish now flight reply).2.breakers =
      g.breakers.takeAll (labelled flight.call.label (finishUses now flight reply)) := by
  unfold finish finishUses
  cases reply with
  | ok answer => by_cases h : 500 ≤ answer.status <;> simp [h, labelled, Breakers.takeAll] <;> rfl
  | error cause =>
    cases h : cause.isEvidence with
    | true => simp [h, settle, Rejection.recorded, labelled, Breakers.takeAll]; rfl
    | false =>
      cases flight.admission with
      | ordinary => simp [h, settle, Rejection.recorded, labelled, Breakers.takeAll]
      | trial =>
        simp [h, settle, Rejection.recorded, labelled, Breakers.takeAll]
        rfl

end Gateway

namespace Session

variable {s : Gateway.Settings}

/-- The uses of breakers when a call begins that goes on with `goOn` once it left the gateway. -/
def beginUses (s : Gateway.Settings) (session : Session) (request : Request)
    (goOn : InFlight → List Breaker.Event) : List (String × Breaker.Event) :=
  match request.toCall with
  | .error _ => []
  | .ok call =>
    Gateway.labelled call.label (session.gateway.startUses s session.now call ++
      match (session.gateway.start s session.now call).1 with
      | .error _ => []
      | .ok flight => goOn flight)

/-- The uses of breakers at an event. -/
def uses (s : Gateway.Settings) (session : Session) : Event → List (String × Breaker.Event)
  | .call request reply _ =>
    session.beginUses s request fun flight =>
      Gateway.finishUses session.now flight (reply flight.request)
  | .start _ request _ => session.beginUses s request fun _ => []
  | .finish id reply _ =>
    (session.pending.get? id).elim [] fun flight =>
      Gateway.labelled flight.call.label
        (Gateway.finishUses session.now flight (reply flight.request))
  | _ => []

/-- The uses of breakers in a run. -/
def log (s : Gateway.Settings) (session : Session) : List Event → List (String × Breaker.Event)
  | [] => []
  | event :: events => session.uses s event ++ (session.step s event).2.log s events

/-- A use in the beginning of a call is one of its start or one of what follows. -/
theorem mem_beginUses {session : Session} {request : Request}
    {goOn : InFlight → List Breaker.Event} {entry : String × Breaker.Event}
    (h : entry ∈ session.beginUses s request goOn) :
    ∃ call, request.toCall = .ok call ∧ entry.1 = call.label ∧
      (entry.2 ∈ session.gateway.startUses s session.now call ∨ ∃ flight,
        (session.gateway.start s session.now call).1 = .ok flight ∧ entry.2 ∈ goOn flight) := by
  unfold beginUses at h
  cases hcall : request.toCall with
  | error failure => simp [hcall] at h
  | ok call =>
    rw [hcall] at h
    obtain ⟨e, he, rfl⟩ := List.mem_map.mp h
    refine ⟨call, rfl, rfl, ?_⟩
    rcases List.mem_append.mp he with he | he
    · exact Or.inl he
    · cases hstart : (session.gateway.start s session.now call).1 with
      | error r => simp [hstart] at he
      | ok flight => exact Or.inr ⟨flight, rfl, by simpa [hstart] using he⟩

/-- An event uses breakers at its own time, and a call asks under the settings in its record. -/
theorem mem_uses {session : Session} {event : Event} {label : String} {e : Breaker.Event}
    (h : (label, e) ∈ session.uses s event) :
    e.time = session.now ∧ ∀ breaker, e.use = .attempt breaker →
      ∃ server, session.gateway.resolve label = .ok (server, breaker) := by
  have hbegin {request : Request} {goOn : InFlight → List Breaker.Event}
      (h : (label, e) ∈ session.beginUses s request goOn)
      (hgoOn : ∀ flight, e ∈ goOn flight → e.time = session.now ∧
        ∀ breaker, e.use ≠ .attempt breaker) :
      e.time = session.now ∧ ∀ breaker, e.use = .attempt breaker →
        ∃ server, session.gateway.resolve label = .ok (server, breaker) := by
    obtain ⟨call, -, hlabel, he⟩ := mem_beginUses h
    obtain rfl : label = call.label := hlabel
    rcases he with he | ⟨flight, -, he⟩
    · exact Gateway.mem_startUses he
    · exact ⟨(hgoOn flight he).1, fun breaker hb => absurd hb ((hgoOn flight he).2 breaker)⟩
  cases event with
  | call request reply reading => exact hbegin h fun flight => Gateway.mem_finishUses
  | start id request reading => exact hbegin h fun flight he => by simp at he
  | finish id reply reading =>
    rw [uses] at h
    cases hwaits : session.pending.get? id with
    | none => simp [hwaits] at h
    | some flight =>
      rw [hwaits, Option.elim_some] at h
      obtain ⟨e', he, heq⟩ := List.mem_map.mp h
      obtain ⟨rfl, rfl⟩ := Prod.mk.inj heq
      obtain ⟨htime, hasks⟩ := Gateway.mem_finishUses he
      exact ⟨htime, fun breaker hb => absurd hb (hasks breaker)⟩
  | _ => simp [uses] at h

/-- An event does to the breakers what its uses do. -/
theorem breakers_step (session : Session) (event : Event) :
    (session.step s event).2.gateway.breakers =
      session.gateway.breakers.takeAll (session.uses s event) := by
  cases event with
  | call request reply reading =>
    rw [step, uses, beginUses]
    rcases startCall_cases (s := s) session request reading _ with
      ⟨failure, hcall, h⟩ | ⟨call, r, hcall, hstart, h⟩ | ⟨call, flight, hcall, hstart, h⟩
    · rw [h, hcall]; rfl
    · rw [h, hcall]
      simp [hstart, Gateway.breakers_start]
    · rw [h, hcall, finishCall_snd]
      obtain ⟨server, -, -, -, rfl, -⟩ := Gateway.start_fst_eq_ok_iff.mp hstart
      simp [hstart, Gateway.breakers_finish, Gateway.breakers_start, Gateway.labelled,
        Breakers.takeAll_append]
  | start id request reading =>
    rw [step, uses, beginUses]
    rcases startCall_cases (s := s) session request reading _ with
      ⟨failure, hcall, h⟩ | ⟨call, r, hcall, hstart, h⟩ | ⟨call, flight, hcall, hstart, h⟩
    · rw [h, hcall]; rfl
    · rw [h, hcall]
      simp [hstart, Gateway.breakers_start]
    · rw [h, hcall]
      simp [hstart, Gateway.breakers_start]
  | finish id reply reading =>
    rw [step_finish, uses]
    cases session.pending.get? id with
    | none => rfl
    | some flight =>
      rw [Option.elim_some, finishCall_snd]
      exact Gateway.breakers_finish _ _ _ _
  | drop id =>
    rw [step_drop]
    cases session.pending.get? id <;> rfl
  | _ => rfl

/-- The breakers after a run are those that its log makes. -/
theorem breakers_run (session : Session) (events : List Event) :
    (session.run s events).2.gateway.breakers =
      session.gateway.breakers.takeAll (session.log s events) := by
  induction events generalizing session with
  | nil => rfl
  | cons event events ih =>
    rw [run_cons_snd, ih, breakers_step, log, Breakers.takeAll_append]

end Session

end ToolGateway
