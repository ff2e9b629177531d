import ToolGateway.Proofs.Config.WrittenPolicy
import ToolGateway.Proofs.Gateway.FirstFault
import ToolGateway.Proofs.Gateway.WithPolicy
import ToolGateway.Server

/-!
# Calls that an override denies

An override that is not `auto` keeps the calls of its agent to its tool from leaving, whatever rules
and defaults say: each is turned away by the policy or by a stage before it. Calls ask the policy
about trimmed names, though, and an override is found under its name as it is written. One whose
name has blanks around it passes the checks of a configuration, is found by no call, and might as
well not have been written.
-/

namespace ToolGateway

/-- An event puts another override in the place of `o`. -/
def Event.Replaces (o : Trust.Override) : Event → Prop
  | .addOverride row => row.agent = o.agent ∧ row.tool = o.tool
  | _ => False

/-- A configuration without an override. -/
def Config.without (c : Config) (o : Trust.Override) : Config :=
  { c with trust := { c.trust with overrides := c.trust.overrides.filter (· ≠ o) } }

namespace Session

variable {s : Gateway.Settings} {session : Session} {request : Request} {o : Trust.Override}

/-! ## The stages up to the policy -/

/-- The stages of a call up to the decision of the policy. -/
def stagesToTier : List Stage :=
  [.label, .tool, .lookup, .enabled, .settings, .breaker, .body] ++ [.policy, .tier]

/-- None of them finds a fault in the reply. -/
theorem firstFaultOf_stagesToTier_congr (reply reply' : Outgoing → Reply) :
    session.firstFaultOf s request reply stagesToTier =
      session.firstFaultOf s request reply' stagesToTier := rfl

/-- A fault that they find is the fault of the call. -/
theorem firstFaultOf_inOrder {reply : Outgoing → Reply} {found : Stage × CallFault}
    (h : session.firstFaultOf s request reply stagesToTier = some found) :
    session.firstFaultOf s request reply Stage.inOrder = some found := by
  have hsplit : Stage.inOrder = stagesToTier ++ [.limit, .credential, .delivery] := rfl
  rw [hsplit, firstFaultOf_append, h, Option.some_or]

/-- Where the policy refuses a request, one of them finds a fault, the last one only the tier that
the policy gave. -/
theorem exists_firstFaultOf_stagesToTier {tier : Trust.Tier}
    {decision : Except Trust.LookupFailure Trust.Tier} (reply : Outgoing → Reply)
    (hdecision : session.decisionOf request = some decision)
    (htier : ∀ t, decision = .ok t → t = tier) (hdenies : tier.permits = false) :
    ∃ stage ∈ stagesToTier, ∃ fault,
      session.firstFaultOf s request reply stagesToTier = some (stage, fault) ∧
        (stage = .tier → fault = .rejected (.trustDenied tier)) := by
  have hpolicy : ∃ stage ∈ [Stage.policy, .tier], ∃ fault,
      session.firstFaultOf s request reply [.policy, .tier] = some (stage, fault) ∧
        (stage = .tier → fault = .rejected (.trustDenied tier)) := by
    cases decision with
    | error cause =>
      refine ⟨.policy, by decide, .rejected (.policyFailure cause), ?_, by simp⟩
      exact firstFaultOf_cons_of_some (by simp [faultAt, hdecision])
    | ok t =>
      obtain rfl := htier t rfl
      refine ⟨.tier, by decide, .rejected (.trustDenied t), ?_, fun _ => rfl⟩
      rw [firstFaultOf_cons_of_none (by simp [faultAt, hdecision])]
      exact firstFaultOf_cons_of_some (by simp [faultAt, hdecision, hdenies])
  rw [stagesToTier, firstFaultOf_append]
  cases hearly : session.firstFaultOf s request reply
      [.label, .tool, .lookup, .enabled, .settings, .breaker, .body] with
  | none =>
    obtain ⟨stage, hstage, fault, hfirst, hfault⟩ := hpolicy
    exact ⟨stage, List.mem_append_right _ hstage, fault, by rw [hfirst, Option.none_or], hfault⟩
  | some found =>
    obtain ⟨stage, fault⟩ := found
    obtain ⟨passed, rest, hsplit, -, -⟩ := firstFaultOf_eq_some_iff.mp hearly
    have hstage : stage ∈ [Stage.label, .tool, .lookup, .enabled, .settings, .breaker, .body] := by
      rw [hsplit]
      simp
    refine ⟨stage, List.mem_append_left _ hstage, fault, rfl, ?_⟩
    rintro rfl
    simp at hstage

/-- What an event tells and records of a call that does not leave depends on its request alone. -/
theorem report_congr {event event' : Event} (hrequest : event.request? = some request)
    (hrequest' : event'.request? = some request) (hleft : session.left? s request = none) :
    let effects := (session.step s event).1
    let effects' := (session.step s event').1
    effects.forwarded = [] ∧ effects.told = effects'.told ∧
      effects.audited.map (·.details.outcome) = effects'.audited.map (·.details.outcome) := by
  intro effects effects'
  rcases report_of_left?_eq_none hrequest hleft with
    ⟨failure, hcall, h⟩ | ⟨call, r, reading, hcall, hstart, h⟩
  · have h' : effects' = ⟨[], [], .result (.error failure)⟩ := by
      dsimp only [effects']
      rw [step_of_toCall_eq_error hrequest' hcall]
    dsimp only [effects]
    rw [h, h']
    exact ⟨rfl, rfl, rfl⟩
  · obtain ⟨reading', h'⟩ := step_of_start_eq_error hrequest' hcall hstart
    dsimp only [effects, effects']
    rw [h, h']
    exact ⟨rfl, rfl, rfl⟩

/-- A call in which a stage up to the policy finds a fault does not leave and ends in that fault. -/
theorem ends_of_firstFaultOf_stagesToTier {event : Event} {reply : Outgoing → Reply} {stage : Stage}
    {fault : CallFault} (hrequest : event.request? = some request) (hstage : stage ∈ stagesToTier)
    (hfirst : session.firstFaultOf s request reply stagesToTier = some (stage, fault)) :
    let effects := (session.step s event).1
    effects.forwarded = [] ∧ effects.told = .result (.error fault.failure) ∧
      effects.audited.map (·.details.outcome) = fault.outcome?.toList := by
  intro effects
  let asked : Event := .call request reply ⟨0, 0⟩
  have hasked : asked.request? = some request := rfl
  have hinOrder := firstFaultOf_inOrder hfirst
  have hdelivery : stage ≠ .delivery := by
    rintro rfl
    exact absurd hstage (by decide)
  have hends : session.EndsIn s request stage fault (session.step s asked).1
      (session.step s asked).2 := by
    rcases call_cases s session request reply ⟨0, 0⟩ with
      ⟨hnone, -⟩ | ⟨stage', fault', hfirst', hends⟩
    · rw [hinOrder] at hnone
      cases hnone
    · rw [hinOrder] at hfirst'
      cases hfirst'
      exact hends
  have hleft : session.left? s request = none := by
    rw [Option.eq_none_iff_forall_ne_some]
    intro flight hflight
    obtain ⟨call, hcall, hstart⟩ := left?_eq_some_iff.mp hflight
    have hunsent := hends.unsent hdelivery
    dsimp only [asked] at hunsent
    rw [step, startCall_of_ok hcall hstart, finishCall_forwarded] at hunsent
    cases hunsent
  obtain ⟨hunsent, htold, hrecorded⟩ := report_congr hrequest hasked hleft
  exact ⟨hunsent, htold.trans hends.told, hrecorded.trans hends.recorded⟩

/-! ## An override in a run -/

/-- An override that no event replaces stays in its place. -/
theorem overrideOf_reach {events : List Event} {i : Nat} {tier : Option Trust.Tier}
    (hkept : ∀ event ∈ events.take i, ¬ event.Replaces o)
    (h : session.gateway.policy.overrideOf o.agent o.tool = tier) :
    (session.reach s events i).gateway.policy.overrideOf o.agent o.tool = tier := by
  let P (session : Session) : Prop :=
    session.gateway.policy.overrideOf o.agent o.tool = tier
  refine reach_induction (P := P) h fun session event hevent hplace => ?_
  dsimp only [P]
  rw [policy_step, ← hplace]
  cases event with
  | addOverride row =>
    exact (Trust.Policy.overrideOf_addOverride _ row _ _).trans (if_neg (hkept _ hevent))
  | _ => rfl

/-- While an override is in its place, the policy decides by it or cannot be read. -/
theorem exists_decisionOf_of_overrideOf {body : CallBody}
    (h : session.gateway.policy.overrideOf o.agent o.tool = some o.tier) (hagent : o.agent ≠ "")
    (htool : Text.trim request.tool = o.tool) (hbody : CallBody.parse? request.body = some body)
    (hasks : body.agent = some o.agent) :
    ∃ decision, session.decisionOf request = some decision ∧
      ∀ tier, decision = .ok tier → tier = o.tier := by
  refine ⟨_, by rw [decisionOf, hbody, Option.map_some], fun tier htier => ?_⟩
  have hnamed : Trust.named? (some o.agent) = some o.agent := by simp [Trust.named?, hagent]
  rw [htool, hasks, Trust.Source.decide, Trust.Source.byAgent, hnamed] at htier
  dsimp only [Trust.Source.during, Trust.Policy.source] at htier
  rw [h] at htier
  cases houtage : session.gateway.outages.overrides with
  | some reason =>
    rw [houtage] at htier
    cases htier
  | none =>
    rw [houtage] at htier
    cases htier
    rfl

end Session

/-! ## An override of a configuration -/

/-- Without an override whose name has blanks around it a valid configuration gives a policy that
calls cannot tell apart. -/
theorem Config.IsValid.agreesOnTrimmed_without {c : Config} {o : Trust.Override} (h : c.IsValid)
    (hpadded : Text.trim o.tool ≠ o.tool) : c.policy.AgreesOnTrimmed (c.without o).policy := by
  obtain ⟨-, hrules, hdefaults⟩ := Config.tables_policy c
  obtain ⟨-, hrules', hdefaults'⟩ := Config.tables_policy (c.without o)
  refine ⟨fun agent tool htool => Option.ext fun tier => ?_, fun workspace => ?_, ?_⟩
  · have hother : (⟨agent, tool, tier⟩ : Trust.Override) ≠ o := by
      rintro rfl
      exact hpadded htool
    rw [Config.overrideOf_policy_eq_some_iff h.pairwise_overrides,
      Config.overrideOf_policy_eq_some_iff (h.pairwise_overrides.filter _)]
    simp [Config.without, hother]
  · rw [hrules, hrules']
    rfl
  · rw [hdefaults, hdefaults']
    rfl

namespace Session

/-- An override of a valid configuration that is not `auto` keeps the calls of its agent to its tool
from leaving, whatever else is in the policy: each ends in a fault of a stage up to the policy, the
last of these only in its own denial. An override whose name has blanks around it does nothing:
every run is as it would be without. -/
theorem denied_unless_padded {c : Config} {o : Trust.Override} (hvalid : c.IsValid)
    (ho : o ∈ c.trust.overrides) (hdenies : o.tier.permits = false) (address : SocketAddress)
    (key : Option CredentialKey) (sink : Option Audit.Sink) (events : List Event) :
    let s := Server.settings c key
    let session := (Server.ofConfig c address key sink).session
    (∀ i event request body, events[i]? = some event →
      (∀ earlier ∈ events.take i, ¬ earlier.Replaces o) → event.request? = some request →
      Text.trim request.tool = o.tool → CallBody.parse? request.body = some body →
      body.agent = some o.agent →
      ∃ effects, (session.run s events).1[i]? = some effects ∧ effects.forwarded = [] ∧
        ∃ stage ∈ stagesToTier, ∃ fault,
          (∀ reply, (session.reach s events i).firstFaultOf s request reply Stage.inOrder =
            some (stage, fault)) ∧
          (stage = .tier → fault = .rejected (.trustDenied o.tier)) ∧
          effects.told = .result (.error fault.failure) ∧
          effects.audited.map (·.details.outcome) = fault.outcome?.toList) ∧
    (Text.trim o.tool ≠ o.tool →
      ((Server.ofConfig (c.without o) address key sink).session.run s events).1 =
        (session.run s events).1) := by
  intro s session
  constructor
  · intro i event request body hevent hkept hrequest htool hbody hasks
    have hplace : session.gateway.policy.overrideOf o.agent o.tool = some o.tier :=
      (Config.overrideOf_policy_eq_some_iff hvalid.pairwise_overrides).mpr ho
    obtain ⟨decision, hdecision, htier⟩ := exists_decisionOf_of_overrideOf
      (overrideOf_reach hkept hplace) (hvalid.agent_ne ho) htool hbody hasks
    obtain ⟨stage, hstage, fault, hfirst, hfault⟩ :=
      exists_firstFaultOf_stagesToTier (s := s) (fun _ => .error .timeout) hdecision htier hdenies
    obtain ⟨hunsent, htold, hrecorded⟩ :=
      ends_of_firstFaultOf_stagesToTier hrequest hstage hfirst
    refine ⟨_, by rw [getElem?_run_fst, hevent, Option.map_some], hunsent, stage, hstage, fault,
      fun reply => ?_, hfault, htold, hrecorded⟩
    exact firstFaultOf_inOrder ((firstFaultOf_stagesToTier_congr _ _).trans hfirst)
  · intro hpadded
    have hagrees : session.gateway.policy.AgreesOnTrimmed (c.without o).policy :=
      hvalid.agreesOnTrimmed_without hpadded
    exact run_withPolicy hagrees events

/-- The override of `rm` keeps a call from leaving. With blanks around its name it does not, though
the call names the tool as the override does: the call leaves, as it would without the override. -/
theorem denied_unless_padded_of_two_names :
    let row (name : String) : Trust.Override := ⟨"bot", name, .block⟩
    let c (name : String) : Config := { Config.standard with
      servers := [⟨"s", "http://127.0.0.1:9100", .none, none, true, none⟩]
      trust := ⟨[⟨"*", .auto, 0⟩], [], [row name]⟩ }
    let request : Request := ⟨"me", "s", " rm ", Text.Utf8.encode "\x7b\"agent_id\":\"bot\"\x7d"⟩
    let effects (c : Config) : Effects :=
      ((Server.ofConfig c ⟨.v4 ⟨127, 0, 0, 1⟩, 0, 8088⟩ none none).session.step
        (Server.settings c none) (.call request (fun _ => .error .timeout) ⟨0, 0⟩)).1
    (c "rm").IsValid ∧ (c " rm ").IsValid ∧ (effects (c "rm")).forwarded = [] ∧
      (effects (c "rm")).told =
        .result (.error (.denied "tool call denied by trust policy")) ∧
      (effects (c " rm ")).forwarded.map Outgoing.tool = ["rm"] ∧
      effects ((c " rm ").without (row " rm ")) = effects (c " rm ") := by
  intro row c request effects
  let address : SocketAddress := ⟨.v4 ⟨127, 0, 0, 1⟩, 0, 8088⟩
  let reply : Outgoing → Reply := fun _ => .error .timeout
  have hsingle (s : Gateway.Settings) (session : Session) (event : Event) :
      (session.run s [event]).1 = [(session.step s event).1] := rfl
  have hvalid : (c "rm").IsValid := by decide +kernel +revert
  have hvalid' : (c " rm ").IsValid := by decide +kernel +revert
  have htrim : Text.trim " rm " = "rm" := by decide +kernel
  have hpadded : Text.trim " rm " ≠ " rm " := by decide +kernel
  have hforwarded : (effects (c " rm ")).forwarded.map Outgoing.tool = ["rm"] := by
    decide +kernel +revert
  have hasks : (CallBody.parse? request.body).bind CallBody.agent = some "bot" := by
    decide +kernel +revert
  have hfault : (Server.ofConfig (c "rm") address none none).session.firstFaultOf
      (Server.settings (c "rm") none) request reply Stage.inOrder =
        some (.tier, .rejected (.trustDenied .block)) := by
    decide +kernel +revert
  have hrow (name : String) : row name ∈ (c name).trust.overrides := List.mem_singleton.mpr rfl
  obtain ⟨body, hbody, hagent⟩ := Option.bind_eq_some_iff.mp hasks
  obtain ⟨hdenied, -⟩ := denied_unless_padded hvalid (hrow "rm") rfl address none none
    [.call request reply ⟨0, 0⟩]
  obtain ⟨-, hdead⟩ := denied_unless_padded hvalid' (hrow " rm ") rfl address none none
    [.call request reply ⟨0, 0⟩]
  obtain ⟨ending, hending, hunsent, stage, -, fault, hfirst, -, htold, -⟩ :=
    hdenied 0 _ request body rfl (by simp) rfl htrim hbody hagent
  have hdead := hdead hpadded
  rw [hsingle] at hending
  rw [hsingle, hsingle] at hdead
  have heffects : effects (c "rm") = ending := Option.some.inj hending
  have hfirst := (hfirst reply).symm.trans hfault
  simp only [Option.some.injEq, Prod.mk.injEq] at hfirst
  rw [hfirst.2] at htold
  rw [heffects]
  exact ⟨hvalid, hvalid', hunsent, htold, hforwarded, (List.cons.inj hdead).1⟩

end Session

end ToolGateway
