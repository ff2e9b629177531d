import ToolGateway.Proofs.Gateway.Mediation
import ToolGateway.Proofs.Text.Trimming
import ToolGateway.Proofs.Trust.Tables

/-!
# What calls see of a policy

A call asks the policy about a trimmed tool name. So two policies that agree on the overrides of
such names, on the rules and on the defaults cannot be told apart: a session goes on alike with
either, whatever happens to it.
-/

namespace ToolGateway

namespace Trust.Policy

/-- The policy behind an event. -/
def behind (p : Policy) : Event → Policy
  | .addOverride row => p.addOverride row
  | .addRule workspace row => p.addRule workspace row
  | .addDefault row => p.addDefault row
  | _ => p

/-- Two policies differ at most in overrides of names with blanks around. -/
structure AgreesOnTrimmed (p p' : Policy) : Prop where
  overrideOf : ∀ agent tool, Text.trim tool = tool →
    p'.overrideOf agent tool = p.overrideOf agent tool
  rulesOf : ∀ workspace, p'.rulesOf workspace = p.rulesOf workspace
  defaults : p'.defaults = p.defaults

variable {p p' : Policy}

/-- They answer alike about a trimmed name. -/
theorem AgreesOnTrimmed.decide_eq (h : p.AgreesOnTrimmed p') (outages : Outages) {q : Question}
    (hq : Text.trim q.tool = q.tool) :
    (p'.source.during outages).decide q = (p.source.during outages).decide q := by
  have hagent : (p'.source.during outages).byAgent q = (p.source.during outages).byAgent q := by
    unfold Source.byAgent Source.during source
    dsimp only
    simp only [h.overrideOf _ _ hq]
  have hworkspace :
      (p'.source.during outages).byWorkspace q = (p.source.during outages).byWorkspace q := by
    unfold Source.byWorkspace Source.during source
    dsimp only
    simp only [h.rulesOf]
  have hdefaults :
      (p'.source.during outages).byDefaults q = (p.source.during outages).byDefaults q := by
    unfold Source.byDefaults Source.during source
    dsimp only
    rw [h.defaults]
  rw [Source.decide, Source.decide, hagent, hworkspace, hdefaults]

/-- They go on agreeing as rows are added. -/
theorem AgreesOnTrimmed.behind (h : p.AgreesOnTrimmed p') (event : Event) :
    (p.behind event).AgreesOnTrimmed (p'.behind event) := by
  cases event with
  | addOverride row =>
    refine ⟨fun agent tool htool => ?_, h.rulesOf, h.defaults⟩
    rw [Policy.behind, Policy.behind, overrideOf_addOverride, overrideOf_addOverride,
      h.overrideOf agent tool htool]
  | addRule workspace row =>
    refine ⟨h.overrideOf, fun other => ?_, h.defaults⟩
    rw [Policy.behind, Policy.behind, rulesOf_addRule, rulesOf_addRule, h.rulesOf]
  | addDefault row =>
    refine ⟨h.overrideOf, h.rulesOf, ?_⟩
    rw [Policy.behind, Policy.behind, addDefault, addDefault, h.defaults]
  | _ => exact h

end Trust.Policy

/-! ## Another policy in its place -/

namespace Gateway

/-- A gateway with another policy. -/
def withPolicy (g : Gateway) (policy : Trust.Policy) : Gateway := { g with policy }

variable {g : Gateway} {p : Trust.Policy}

/-- The policy says the same to a call. -/
theorem checkTrust_withPolicy (h : g.policy.AgreesOnTrimmed p) {tool : String}
    (htool : Text.trim tool = tool) (body : CallBody) :
    (g.withPolicy p).checkTrust tool body = g.checkTrust tool body := by
  have hdecide := h.decide_eq g.outages (q := ⟨tool, body.agent, body.workspace⟩) htool
  unfold checkTrust withPolicy
  dsimp only
  rw [hdecide]

/-- A call passes the same checks behind the breaker. -/
theorem prepare_withPolicy (h : g.policy.AgreesOnTrimmed p) (s : Settings) (now : Nat) {call : Call}
    (htool : Text.trim call.tool = call.tool) (server : ToolServer) :
    (g.withPolicy p).prepare s now call server = g.prepare s now call server := by
  have hlimiter : (g.withPolicy p).limiter = g.limiter := rfl
  unfold prepare
  simp only [checkTrust_withPolicy h htool, hlimiter]

/-- A call begins in the same way. -/
theorem start_withPolicy (h : g.policy.AgreesOnTrimmed p) (s : Settings) (now : Nat) {call : Call}
    (htool : Text.trim call.tool = call.tool) :
    (g.withPolicy p).start s now call =
      ((g.start s now call).1, (g.start s now call).2.withPolicy p) := by
  have hresolve : (g.withPolicy p).resolve call.label = g.resolve call.label := rfl
  have hbreakers : (g.withPolicy p).breakers = g.breakers := rfl
  unfold start
  simp only [hresolve, hbreakers, prepare_withPolicy h s now htool]
  cases g.resolve call.label with
  | error r => rfl
  | ok found =>
    dsimp only
    rcases g.breakers.attempt call.label found.2 now with ⟨admission, breakers⟩
    cases admission with
    | none => rfl
    | some admission =>
      rcases g.prepare s now call found.1 with ⟨outcome, limiter⟩
      cases outcome <;> rfl

/-- A reply is taken in in the same way. -/
theorem finish_withPolicy (g : Gateway) (p : Trust.Policy) (now : Nat) (flight : InFlight)
    (reply : Reply) : (g.withPolicy p).finish now flight reply =
      ((g.finish now flight reply).1, (g.finish now flight reply).2.withPolicy p) := by
  cases reply <;> rfl

end Gateway

namespace Session

/-- A session with another policy. -/
def withPolicy (session : Session) (policy : Trust.Policy) : Session :=
  { session with gateway := session.gateway.withPolicy policy }

variable {s : Gateway.Settings} {session : Session} {p : Trust.Policy}

/-- The end of a call is the same. -/
theorem finishCall_withPolicy (session : Session) (p : Trust.Policy) (forwarded : List Outgoing)
    (flight : InFlight) (reply : Reply) (reading : Reading) :
    (session.withPolicy p).finishCall s forwarded flight reply reading =
      ((session.finishCall s forwarded flight reply reading).1,
        (session.finishCall s forwarded flight reply reading).2.withPolicy p) := by
  have hfinish := Gateway.finish_withPolicy session.gateway p session.now flight reply
  unfold finishCall withPolicy
  dsimp only
  rw [hfinish]
  rcases session.gateway.finish session.now flight reply with ⟨outcome, gateway⟩
  cases outcome <;> rfl

/-- The beginning of a call is the same, if it goes on in the same way. -/
theorem startCall_withPolicy (h : session.gateway.policy.AgreesOnTrimmed p) (request : Request)
    (reading : Reading) {goOn : Session → InFlight → Effects × Session}
    (hgoOn : ∀ session flight, goOn (session.withPolicy p) flight =
      ((goOn session flight).1, (goOn session flight).2.withPolicy p)) :
    (session.withPolicy p).startCall s request reading goOn =
      ((session.startCall s request reading goOn).1,
        (session.startCall s request reading goOn).2.withPolicy p) := by
  unfold startCall
  cases hcall : request.toCall with
  | error failure => rfl
  | ok call =>
    have htool : Text.trim call.tool = call.tool := by
      rw [(Request.toCall_eq_ok_iff.mp hcall).2.2.2.2.1, Text.trim_trim]
    have hstart := Gateway.start_withPolicy h s session.now htool
    unfold withPolicy
    dsimp only
    rw [hstart]
    rcases session.gateway.start s session.now call with ⟨outcome, gateway⟩
    cases outcome with
    | error r => rfl
    | ok flight => exact hgoOn { session with gateway } flight

/-- Only an event that adds a row changes the policy. -/
theorem policy_step (session : Session) (event : Event) :
    (session.step s event).2.gateway.policy = session.gateway.policy.behind event := by
  cases hcall : event.isOfCall with
  | true =>
    obtain ⟨breakers, limiter, pending, h⟩ := sameFrame_step (s := s) session hcall
    rw [h]
    cases event <;> first | contradiction | rfl
  | false => cases event <;> first | contradiction | rfl

/-- An event has the same effects. -/
theorem step_withPolicy (h : session.gateway.policy.AgreesOnTrimmed p) (event : Event) :
    (session.withPolicy p).step s event =
      ((session.step s event).1, (session.step s event).2.withPolicy (p.behind event)) := by
  cases event with
  | call request reply reading =>
    rw [step, step]
    exact startCall_withPolicy h request reading fun session flight =>
      finishCall_withPolicy session p _ flight _ reading
  | start id request reading =>
    rw [step, step]
    exact startCall_withPolicy h request reading fun _ _ => rfl
  | finish id reply reading =>
    have hpending : (session.withPolicy p).pending = session.pending := rfl
    rw [step_finish, step_finish, hpending]
    cases session.pending.get? id with
    | none => rfl
    | some flight =>
      exact finishCall_withPolicy { session with pending := session.pending.erase id } p _ flight
        _ reading
  | drop id =>
    have hpending : (session.withPolicy p).pending = session.pending := rfl
    rw [step_drop, step_drop, hpending]
    cases session.pending.get? id <;> rfl
  | _ => rfl

/-- A run has the same effects. -/
theorem run_withPolicy (h : session.gateway.policy.AgreesOnTrimmed p) (events : List Event) :
    ((session.withPolicy p).run s events).1 = (session.run s events).1 := by
  induction events generalizing session p with
  | nil => rfl
  | cons event events ih =>
    have hlater : (session.step s event).2.gateway.policy.AgreesOnTrimmed (p.behind event) := by
      rw [policy_step]
      exact h.behind event
    simp only [run, step_withPolicy h event, ih hlater]

end Session

end ToolGateway
