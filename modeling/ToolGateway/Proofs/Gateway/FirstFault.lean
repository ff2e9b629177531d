import ToolGateway.Proofs.Breaker.Answers
import ToolGateway.Proofs.Gateway.Report

/-!
# The first fault of a call

A call passes its stages in a fixed order. What a stage finds amiss is said here for each stage by
itself, from the request and the session alone, whatever the other stages find; a stage that would
look at something that is not there finds nothing. A call ends in an error exactly if some stage
finds a fault, and then in that of the first such stage (`call_cases`).
-/

namespace ToolGateway

/-- The stages of a call. -/
inductive Stage where
  /-- The request names a label. -/
  | label
  /-- The request names a tool. -/
  | tool
  /-- The registry can be read and has the label. -/
  | lookup
  /-- The tool server is switched on. -/
  | enabled
  /-- Its breaker settings are readable. -/
  | settings
  /-- Its breaker lets the call pass. -/
  | breaker
  /-- The body is readable. -/
  | body
  /-- The policy can be read. -/
  | policy
  /-- The policy says `auto`. -/
  | tier
  /-- The caller has calls left. -/
  | limit
  /-- The credential opens. -/
  | credential
  /-- The tool server answers. -/
  | delivery
  deriving DecidableEq, Repr

/-- The stages in the order in which a call passes them. -/
def Stage.inOrder : List Stage :=
  [.label, .tool, .lookup, .enabled, .settings, .breaker, .body, .policy, .tier, .limit,
    .credential, .delivery]

/-- Whether a call that gets as far as this stage has been counted by the limiter. -/
def Stage.isCounted : Stage → Bool
  | .limit => true
  | .credential => true
  | .delivery => true
  | _ => false

/-- What may be amiss with a call. -/
inductive CallFault where
  /-- It lacks a name. -/
  | unnamed (failure : Failure)
  | rejected (r : Rejection)
  deriving DecidableEq, Repr

namespace CallFault

/-- What the caller is told. -/
def failure : CallFault → Failure
  | .unnamed failure => failure
  | .rejected r => r.failure

/-- What is recorded, if anything is. -/
def outcome? : CallFault → Option Outcome
  | .unnamed _ => none
  | .rejected r => some r.outcome

/-- Whether the breaker takes note of it. -/
def recorded : CallFault → Bool
  | .unnamed _ => false
  | .rejected r => r.recorded

end CallFault

namespace Session

/-! ## Each stage by itself -/

/-- The record of the label of a request. -/
def serverOf (session : Session) (request : Request) : Option ToolServer :=
  session.gateway.registry.get? (Text.trim request.label)

/-- The breaker settings in that record. -/
def settingsOf (session : Session) (request : Request) : Option Breaker.Settings :=
  (session.serverOf request).bind fun server => Breaker.Settings.parse? server.breaker

/-- What the policy says to a request. -/
def decisionOf (session : Session) (request : Request) :
    Option (Except Trust.LookupFailure Trust.Tier) :=
  (CallBody.parse? request.body).map fun body =>
    (session.gateway.policy.source.during session.gateway.outages).decide
      ⟨Text.trim request.tool, body.agent, body.workspace⟩

/-- What the limiter says to a request, and the limiter afterwards. -/
def spentOn (s : Gateway.Settings) (session : Session) (request : Request) :
    Limiter.Verdict × Limiter :=
  session.gateway.limiter.spend
    (Limiter.callKey (Text.trim request.label) (Text.trim request.tool) request.caller) s.limit
    s.window session.now

/-- What is to be sent for a request. -/
def outgoingOf (s : Gateway.Settings) (session : Session) (request : Request) : Option Outgoing :=
  (session.serverOf request).bind fun server =>
    (CallBody.parse? request.body).bind fun body =>
      (Gateway.openCredential s server).toOption.map fun credential =>
        ⟨server.label, server.endpoint, Text.trim request.tool, body.arguments, credential⟩

/-- What a stage finds amiss with a request. -/
def faultAt (s : Gateway.Settings) (session : Session) (request : Request)
    (reply : Outgoing → Reply) : Stage → Option CallFault
  | .label =>
    if Text.trim request.label = "" then some (.unnamed (.invalid "server label is required"))
    else none
  | .tool =>
    if Text.trim request.tool = "" then some (.unnamed (.invalid "tool name is required")) else none
  | .lookup =>
    match session.gateway.registryOutage, session.serverOf request with
    | some reason, _ => some (.rejected (.registryFailure reason))
    | none, none => some (.rejected .serverNotFound)
    | none, some _ => none
  | .enabled =>
    (session.serverOf request).bind fun server =>
      if server.enabled then none else some (.rejected .serverDisabled)
  | .settings =>
    (session.serverOf request).bind fun server =>
      if (Breaker.Settings.parse? server.breaker).isSome then none
      else some (.rejected .invalidBreaker)
  | .breaker =>
    (session.settingsOf request).bind fun settings =>
      if (session.gateway.breakers.attempt (Text.trim request.label) settings
        session.now).1.isSome then none
      else some (.rejected .circuitOpen)
  | .body => if (CallBody.parse? request.body).isSome then none else some (.rejected .invalidBody)
  | .policy =>
    (session.decisionOf request).bind fun decision =>
      match decision with
      | .error cause => some (.rejected (.policyFailure cause))
      | .ok _ => none
  | .tier =>
    (session.decisionOf request).bind fun decision =>
      match decision with
      | .error _ => none
      | .ok tier => if tier.permits then none else some (.rejected (.trustDenied tier))
  | .limit =>
    if (session.spentOn s request).1.permitted then none
    else some (.rejected (.rateLimited (session.spentOn s request).1.resetAfter))
  | .credential =>
    (session.serverOf request).bind fun server =>
      match Gateway.openCredential s server with
      | .error r => some (.rejected r)
      | .ok _ => none
  | .delivery =>
    (session.outgoingOf s request).bind fun outgoing =>
      match reply outgoing with
      | .error cause => some (.rejected (.delivery cause))
      | .ok _ => none

/-- The first of some stages that finds a fault, with this fault. -/
def firstFaultOf (s : Gateway.Settings) (session : Session) (request : Request)
    (reply : Outgoing → Reply) (stages : List Stage) : Option (Stage × CallFault) :=
  stages.findSome? fun stage => (session.faultAt s request reply stage).map (stage, ·)

variable {s : Gateway.Settings} {session : Session} {request : Request} {reply : Outgoing → Reply}

/-- A request passes every check if and only if no stage before the delivery finds a fault. -/
theorem exists_clears_iff_faultAt :
    (∃ server body out, session.Clears s request server body out) ↔
      ∀ stage, stage ≠ .delivery → session.faultAt s request reply stage = none := by
  constructor
  · rintro ⟨server, body, out, h⟩ stage hstage
    have hserver : session.serverOf request = some server := h.found
    obtain ⟨breaker, hparse, hadmitted⟩ := h.admitted
    cases stage with
    | label => exact if_neg h.label_ne
    | tool => exact if_neg h.tool_ne
    | lookup => rw [faultAt, h.readable, hserver]
    | enabled => rw [faultAt, hserver, Option.bind_some, if_pos h.enabled]
    | settings => simp [faultAt, hserver, hparse]
    | breaker =>
      have hsome := Option.isSome_iff_ne_none.mpr hadmitted
      simp [faultAt, settingsOf, hserver, hparse, hsome]
    | body => simp [faultAt, h.parsed]
    | policy => simp [faultAt, decisionOf, h.parsed, h.allowed]
    | tier => simp [faultAt, decisionOf, h.parsed, h.allowed, Trust.Tier.permits]
    | limit => exact if_pos h.permitted
    | credential =>
      have hopen := Gateway.openCredential_eq_ok_iff.mpr h.opened
      simp [faultAt, hserver, hopen]
    | delivery => exact absurd rfl hstage
  · intro h
    have hlabel : Text.trim request.label ≠ "" := by simpa [faultAt] using h .label (by decide)
    have htool : Text.trim request.tool ≠ "" := by simpa [faultAt] using h .tool (by decide)
    obtain ⟨hreadable, server, hserver⟩ : session.gateway.registryOutage = none ∧
        ∃ server, session.serverOf request = some server := by
      have hlookup := h .lookup (by decide)
      simp only [faultAt] at hlookup
      split at hlookup
      · cases hlookup
      · cases hlookup
      · next houtage hfound => exact ⟨houtage, _, hfound⟩
    have henabled : server.enabled = true := by
      simpa [faultAt, hserver] using h .enabled (by decide)
    obtain ⟨breaker, hparse⟩ : ∃ breaker,
        Breaker.Settings.parse? server.breaker = some breaker := by
      refine Option.ne_none_iff_exists'.mp ?_
      simpa [faultAt, hserver] using h .settings (by decide)
    have hadmitted : (session.gateway.breakers.attempt (Text.trim request.label) breaker
        session.now).1 ≠ none := by
      simpa [faultAt, settingsOf, hserver, hparse] using h .breaker (by decide)
    obtain ⟨body, hbody⟩ : ∃ body, CallBody.parse? request.body = some body := by
      refine Option.ne_none_iff_exists'.mp ?_
      simpa [faultAt] using h .body (by decide)
    have hallowed : (session.gateway.policy.source.during session.gateway.outages).decide
        ⟨Text.trim request.tool, body.agent, body.workspace⟩ = .ok .auto := by
      have hpolicy := h .policy (by decide)
      have htier := h .tier (by decide)
      simp only [faultAt, decisionOf, hbody, Option.map_some, Option.bind_some] at hpolicy htier
      split at hpolicy
      · cases hpolicy
      · next tier hdecision =>
        rw [hdecision] at htier ⊢
        cases tier <;> simp_all [Trust.Tier.permits]
    have hpermitted : (session.spentOn s request).1.permitted = true := by
      simpa [faultAt] using h .limit (by decide)
    obtain ⟨credential, hopen⟩ : ∃ credential,
        Gateway.openCredential s server = .ok credential := by
      have hcredential := h .credential (by decide)
      simp only [faultAt, hserver, Option.bind_some] at hcredential
      split at hcredential
      · cases hcredential
      · next credential hopen => exact ⟨credential, hopen⟩
    refine ⟨server, body, ⟨server.label, server.endpoint, Text.trim request.tool, body.arguments,
      credential⟩, ?_⟩
    exact {
      label_ne := hlabel
      tool_ne := htool
      readable := hreadable
      found := hserver
      enabled := henabled
      admitted := ⟨breaker, hparse, hadmitted⟩
      parsed := hbody
      allowed := hallowed
      permitted := hpermitted
      opened := Gateway.openCredential_eq_ok_iff.mp hopen
      label_eq := rfl
      endpoint_eq := rfl
      tool_eq := rfl
      arguments_eq := rfl }
/-- A stage that finds nothing amiss leaves it to the others. -/
theorem firstFaultOf_cons_of_none {stage : Stage} {stages : List Stage}
    (h : session.faultAt s request reply stage = none) :
    session.firstFaultOf s request reply (stage :: stages) =
      session.firstFaultOf s request reply stages := by
  rw [firstFaultOf, List.findSome?_cons, h]
  rfl

/-- A stage that finds a fault settles the matter. -/
theorem firstFaultOf_cons_of_some {stage : Stage} {stages : List Stage} {fault : CallFault}
    (h : session.faultAt s request reply stage = some fault) :
    session.firstFaultOf s request reply (stage :: stages) = some (stage, fault) := by
  rw [firstFaultOf, List.findSome?_cons, h]
  rfl

/-- Some stages find what the first of them find, or else the others. -/
theorem firstFaultOf_append (stages more : List Stage) :
    session.firstFaultOf s request reply (stages ++ more) =
      (session.firstFaultOf s request reply stages).or
        (session.firstFaultOf s request reply more) :=
  List.findSome?_append

/-- The first fault is found at a stage such that no stage before it finds any. -/
theorem firstFaultOf_eq_some_iff {stages : List Stage} {stage : Stage} {fault : CallFault} :
    session.firstFaultOf s request reply stages = some (stage, fault) ↔
      ∃ passed rest, stages = passed ++ stage :: rest ∧
        (∀ earlier ∈ passed, session.faultAt s request reply earlier = none) ∧
        session.faultAt s request reply stage = some fault := by
  unfold firstFaultOf
  rw [List.findSome?_eq_some_iff]
  constructor
  · rintro ⟨passed, found, rest, rfl, hfound, hpassed⟩
    obtain ⟨fault', hfault, heq⟩ := Option.map_eq_some_iff.mp hfound
    cases heq
    exact ⟨passed, rest, rfl, fun earlier h => Option.map_eq_none_iff.mp (hpassed earlier h),
      hfault⟩
  · rintro ⟨passed, rest, rfl, hpassed, hfault⟩
    exact ⟨passed, stage, rest, rfl, by rw [hfault]; rfl,
      fun earlier h => by rw [hpassed earlier h]; rfl⟩

/-! ## Groups of stages -/

/-- The stages of the names find what keeps a request from making a call. -/
theorem firstFaultOf_names_of_error (s : Gateway.Settings) (session : Session)
    (reply : Outgoing → Reply) {failure : Failure} (h : request.toCall = .error failure) :
    ∃ stage ∈ [Stage.label, .tool],
      session.firstFaultOf s request reply [.label, .tool] = some (stage, .unnamed failure) := by
  unfold Request.toCall at h
  by_cases hlabel : Text.trim request.label = ""
  · rw [dif_pos hlabel] at h
    cases h
    exact ⟨.label, by decide, firstFaultOf_cons_of_some (by rw [faultAt, if_pos hlabel])⟩
  · rw [dif_neg hlabel] at h
    have hlabelOk : session.faultAt s request reply .label = none := by rw [faultAt, if_neg hlabel]
    by_cases htool : Text.trim request.tool = ""
    · rw [dif_pos htool] at h
      cases h
      refine ⟨.tool, by decide, ?_⟩
      rw [firstFaultOf_cons_of_none hlabelOk]
      exact firstFaultOf_cons_of_some (by rw [faultAt, if_pos htool])
    · rw [dif_neg htool] at h
      cases h

/-- They find nothing amiss where there are names. -/
theorem firstFaultOf_names_of_ok {call : Call} (h : request.toCall = .ok call) :
    session.firstFaultOf s request reply [.label, .tool] = none := by
  obtain ⟨hlabel, htool, -⟩ := Request.toCall_eq_ok_iff.mp h
  rw [firstFaultOf_cons_of_none (by rw [faultAt, if_neg hlabel]),
    firstFaultOf_cons_of_none (by rw [faultAt, if_neg htool])]
  rfl

/-- Where the label resolves, the record and the breaker settings are there. -/
theorem of_resolve_eq_ok {server : ToolServer} {settings : Breaker.Settings}
    (h : session.gateway.resolve (Text.trim request.label) = .ok (server, settings)) :
    session.serverOf request = some server ∧ session.settingsOf request = some settings := by
  obtain ⟨-, hfound, -, hparse⟩ := Gateway.resolve_eq_ok_iff.mp h
  exact ⟨hfound, by rw [settingsOf, serverOf, hfound, Option.bind_some, hparse]⟩

/-- The stages of the record find nothing amiss where the label resolves. -/
theorem firstFaultOf_record_of_ok {server : ToolServer} {settings : Breaker.Settings}
    (h : session.gateway.resolve (Text.trim request.label) = .ok (server, settings)) :
    session.firstFaultOf s request reply [.lookup, .enabled, .settings] = none := by
  obtain ⟨hserver, -⟩ := of_resolve_eq_ok h
  obtain ⟨hreadable, -, henabled, hparse⟩ := Gateway.resolve_eq_ok_iff.mp h
  rw [firstFaultOf_cons_of_none (by rw [faultAt, hreadable, hserver]),
    firstFaultOf_cons_of_none (by rw [faultAt, hserver, Option.bind_some, if_pos henabled]),
    firstFaultOf_cons_of_none (by rw [faultAt, hserver, Option.bind_some, hparse]; rfl)]
  rfl

/-- Otherwise they find what keeps it from that. -/
theorem firstFaultOf_record_of_error (s : Gateway.Settings) (reply : Outgoing → Reply)
    {r : Rejection} (h : session.gateway.resolve (Text.trim request.label) = .error r) :
    ∃ stage ∈ [Stage.lookup, .enabled, .settings],
      session.firstFaultOf s request reply [.lookup, .enabled, .settings] =
        some (stage, .rejected r) := by
  unfold Gateway.resolve at h
  cases houtage : session.gateway.registryOutage with
  | some reason =>
    obtain rfl : Rejection.registryFailure reason = r := by simpa [houtage] using h
    exact ⟨.lookup, by decide, firstFaultOf_cons_of_some (by rw [faultAt, houtage])⟩
  | none =>
    cases hfound : session.gateway.registry.get? (Text.trim request.label) with
    | none =>
      obtain rfl : Rejection.serverNotFound = r := by simpa [houtage, hfound] using h
      exact ⟨.lookup, by decide,
        firstFaultOf_cons_of_some (by rw [faultAt, houtage, serverOf, hfound])⟩
    | some server =>
      have hserver : session.serverOf request = some server := hfound
      have hlookupOk : session.faultAt s request reply .lookup = none := by
        rw [faultAt, houtage, hserver]
      cases henabled : server.enabled with
      | false =>
        obtain rfl : Rejection.serverDisabled = r := by simpa [houtage, hfound, henabled] using h
        refine ⟨.enabled, by decide, ?_⟩
        rw [firstFaultOf_cons_of_none hlookupOk]
        exact firstFaultOf_cons_of_some (by simp [faultAt, hserver, henabled])
      | true =>
        cases hparse : Breaker.Settings.parse? server.breaker with
        | none =>
          obtain rfl : Rejection.invalidBreaker = r := by
            simpa [houtage, hfound, henabled, hparse] using h
          refine ⟨.settings, by decide, ?_⟩
          rw [firstFaultOf_cons_of_none hlookupOk,
            firstFaultOf_cons_of_none (by simp [faultAt, hserver, henabled])]
          exact firstFaultOf_cons_of_some (by simp [faultAt, hserver, hparse])
        | some settings => simp [houtage, hfound, henabled, hparse] at h

/-- The stage of the breaker finds an open circuit where the breaker refuses the call. -/
theorem faultAt_breaker (s : Gateway.Settings) (reply : Outgoing → Reply) {server : ToolServer}
    {settings : Breaker.Settings}
    (h : session.gateway.resolve (Text.trim request.label) = .ok (server, settings)) :
    session.faultAt s request reply .breaker =
      if (session.gateway.breakers.attempt (Text.trim request.label) settings
        session.now).1.isSome then none
      else some (.rejected .circuitOpen) := by
  rw [faultAt, (of_resolve_eq_ok h).2, Option.bind_some]

/-- The stages of the policy find why a tool is not permitted, and nothing amiss where it is. -/
theorem firstFaultOf_trust (s : Gateway.Settings) (reply : Outgoing → Reply) {body : CallBody}
    (hparse : CallBody.parse? request.body = some body) :
    (∃ r, ∃ stage ∈ [Stage.policy, .tier],
        session.firstFaultOf s request reply [.policy, .tier] = some (stage, .rejected r) ∧
        session.gateway.checkTrust (Text.trim request.tool) body = .error r) ∨
      session.firstFaultOf s request reply [.policy, .tier] = none ∧
        session.gateway.checkTrust (Text.trim request.tool) body = .ok () := by
  unfold Gateway.checkTrust
  cases hdecide : (session.gateway.policy.source.during session.gateway.outages).decide
      ⟨Text.trim request.tool, body.agent, body.workspace⟩ with
  | error cause =>
    refine Or.inl ⟨.policyFailure cause, .policy, by decide, ?_, rfl⟩
    exact firstFaultOf_cons_of_some (by simp [faultAt, decisionOf, hparse, hdecide])
  | ok tier =>
    have hpolicyOk : session.faultAt s request reply .policy = none := by
      simp [faultAt, decisionOf, hparse, hdecide]
    rw [firstFaultOf_cons_of_none hpolicyOk]
    cases hpermits : tier.permits with
    | false =>
      refine Or.inl ⟨.trustDenied tier, .tier, by decide, ?_, by simp [hpermits]⟩
      exact firstFaultOf_cons_of_some (by simp [faultAt, decisionOf, hparse, hdecide, hpermits])
    | true =>
      have htierOk : session.faultAt s request reply .tier = none := by
        simp [faultAt, decisionOf, hparse, hdecide, hpermits]
      exact Or.inr ⟨firstFaultOf_cons_of_none htierOk, by simp [hpermits]⟩

/-- The stages behind the breaker find what the checks behind it find. If they find a fault, the
limiter has been asked or not, according to the stage. -/
theorem firstFaultOf_prepare (s : Gateway.Settings) (reply : Outgoing → Reply) {call : Call}
    {server : ToolServer} (hcall : request.toCall = .ok call)
    (hserver : session.serverOf request = some server) :
    (∃ r stage, session.firstFaultOf s request reply [.body, .policy, .tier, .limit, .credential] =
          some (stage, .rejected r) ∧
        session.gateway.prepare s session.now call server =
          (.error r,
            if stage.isCounted then (session.spentOn s request).2 else session.gateway.limiter)) ∨
      ∃ outgoing remaining,
        session.firstFaultOf s request reply [.body, .policy, .tier, .limit, .credential] = none ∧
        session.outgoingOf s request = some outgoing ∧
        session.gateway.prepare s session.now call server =
          (.ok (outgoing, remaining), (session.spentOn s request).2) := by
  obtain ⟨-, -, hcaller, hlabel, htool, hbody⟩ := Request.toCall_eq_ok_iff.mp hcall
  have hspent : session.gateway.limiter.spend
      (Limiter.callKey call.label call.tool call.caller) s.limit s.window session.now =
        session.spentOn s request := by
    rw [spentOn, hlabel, htool, hcaller]
  unfold Gateway.prepare
  cases hparse : CallBody.parse? request.body with
  | none =>
    rw [Gateway.readBody, hbody, hparse]
    refine Or.inl ⟨.invalidBody, .body, ?_, rfl⟩
    exact firstFaultOf_cons_of_some (by simp [faultAt, hparse])
  | some body =>
    have hbodyOk : session.faultAt s request reply .body = none := by simp [faultAt, hparse]
    have hstages : [Stage.policy, .tier, .limit, .credential] =
        [.policy, .tier] ++ [.limit, .credential] := rfl
    rw [Gateway.readBody, hbody, hparse, firstFaultOf_cons_of_none hbodyOk, hstages,
      firstFaultOf_append, htool]
    dsimp only
    rcases firstFaultOf_trust s reply hparse with ⟨r, stage, hstage, hfirst, htrust⟩ |
      ⟨hfirst, htrust⟩
    · have huncounted : stage.isCounted = false :=
        (by decide : ∀ stage ∈ [Stage.policy, .tier], stage.isCounted = false) stage hstage
      rw [htrust, hfirst, Option.some_or]
      exact Or.inl ⟨r, stage, rfl, by rw [huncounted, if_neg Bool.false_ne_true]⟩
    · rw [htrust, hfirst, Option.none_or, ← htool, hspent]
      dsimp only
      cases hpermitted : (session.spentOn s request).1.permitted with
      | false =>
        refine Or.inl ⟨.rateLimited (session.spentOn s request).1.resetAfter, .limit, ?_, rfl⟩
        exact firstFaultOf_cons_of_some (by simp [faultAt, hpermitted])
      | true =>
        have hlimitOk : session.faultAt s request reply .limit = none := by
          simp [faultAt, hpermitted]
        rw [if_pos rfl, firstFaultOf_cons_of_none hlimitOk]
        cases hopen : Gateway.openCredential s server with
        | error r =>
          refine Or.inl ⟨r, .credential, ?_, rfl⟩
          exact firstFaultOf_cons_of_some (by simp [faultAt, hserver, hopen])
        | ok credential =>
          have hcredentialOk : session.faultAt s request reply .credential = none := by
            simp [faultAt, hserver, hopen]
          refine Or.inr ⟨_, _, firstFaultOf_cons_of_none hcredentialOk, ?_, rfl⟩
          simp [outgoingOf, hparse, hserver, hopen, Except.toOption, Gateway.outgoing, htool]

/-! ## Whole calls -/

/-- A call ends in the fault that a stage finds, and leaves nothing behind but what the stages that
it passed do. -/
structure EndsIn (s : Gateway.Settings) (session : Session) (request : Request) (stage : Stage)
    (fault : CallFault) (effects : Effects) (later : Session) : Prop where
  told : effects.told = .result (.error fault.failure)
  recorded : effects.audited.map (·.details.outcome) = fault.outcome?.toList
  unsent : stage ≠ .delivery → effects.forwarded = []
  limiter : later.gateway.limiter =
    if stage.isCounted then (session.spentOn s request).2 else session.gateway.limiter
  breakers : fault.recorded = false → later.gateway.breakers = session.gateway.breakers ∨
    ∃ settings, session.settingsOf request = some settings ∧ later.gateway.breakers =
      session.gateway.breakers.askInVain (Text.trim request.label) settings session.now

/-- A rejected call that gives its place back has asked in vain. -/
theorem settle_attempt {bs : Breakers} {label : String} {settings : Breaker.Settings} {now : Nat}
    {admission : Admission} {r : Rejection} (h : (bs.attempt label settings now).1 = some admission)
    (hr : r.recorded = false) :
    Gateway.settle (bs.attempt label settings now).2 label admission r =
      bs.askInVain label settings now := by
  unfold Gateway.settle Breakers.askInVain
  rw [h, hr]
  simp

/-- A call that is rejected before it leaves ends in the cause. -/
theorem endsIn_of_start_eq_error {call : Call} {r : Rejection} {later : Gateway} {stage : Stage}
    (hcall : request.toCall = .ok call)
    (hstart : session.gateway.start s session.now call = (.error r, later))
    (hlimiter : later.limiter =
      if stage.isCounted then (session.spentOn s request).2 else session.gateway.limiter)
    (hbreakers : later.breakers = session.gateway.breakers ∨
      ∃ settings, session.settingsOf request = some settings ∧ later.breakers =
        session.gateway.breakers.askInVain (Text.trim request.label) settings session.now)
    (reading : Reading) :
    session.EndsIn s request stage (.rejected r) (session.step s (.call request reply reading)).1
      (session.step s (.call request reply reading)).2 := by
  have hrequest : (Event.call request reply reading).request? = some request := rfl
  obtain ⟨reading', hstep⟩ := step_of_start_eq_error hrequest hcall (by rw [hstart])
  rw [hstep, hstart]
  exact ⟨rfl, rfl, fun _ => rfl, hlimiter, fun _ => hbreakers⟩

/-- A call that left and is not answered ends in the cause. -/
theorem endsIn_of_start_eq_ok {call : Call} {flight : InFlight} {later : Gateway}
    {settings : Breaker.Settings} {cause : DeliveryFailure} (hcall : request.toCall = .ok call)
    (hstart : session.gateway.start s session.now call = (.ok flight, later))
    (hlimiter : later.limiter = (session.spentOn s request).2)
    (hsettings : session.settingsOf request = some settings)
    (hbreakers : later.breakers = (session.gateway.breakers.attempt (Text.trim request.label)
      settings session.now).2)
    (hadmitted : (session.gateway.breakers.attempt (Text.trim request.label) settings
      session.now).1 = some flight.admission)
    (hreply : reply flight.request = .error cause) (reading : Reading) :
    session.EndsIn s request .delivery (.rejected (.delivery cause))
      (session.step s (.call request reply reading)).1
      (session.step s (.call request reply reading)).2 := by
  have hstarted : (session.gateway.start s session.now call).1 = .ok flight := by rw [hstart]
  have hlabel : flight.call.label = Text.trim request.label := by
    obtain ⟨-, -, -, -, rfl, -⟩ := Gateway.start_fst_eq_ok_iff.mp hstarted
    exact (Request.toCall_eq_ok_iff.mp hcall).2.2.2.1
  have hstep : session.step s (.call request reply reading) =
      { session with gateway := later }.finishCall s [flight.request] flight (.error cause)
        reading := by
    rw [step, startCall_of_ok hcall hstarted, hreply, hstart]
  rw [hstep, finishCall_fst, finishCall_snd]
  refine ⟨rfl, rfl, fun h => absurd rfl h, hlimiter,
    fun hsilent => Or.inr ⟨settings, hsettings, ?_⟩⟩
  have hevidence : cause.isEvidence = false := hsilent
  rw [Gateway.finish, hevidence, hlabel]
  change Gateway.settle later.breakers _ flight.admission (.delivery cause) = _
  rw [hbreakers]
  exact settle_attempt hadmitted hsilent

/-- A call that the breaker admits is answered if no stage behind the breaker finds a fault, and
otherwise ends in the first fault. -/
theorem call_cases_of_admitted {call : Call} {server : ToolServer} {settings : Breaker.Settings}
    {admission : Admission} (hcall : request.toCall = .ok call)
    (hresolve : session.gateway.resolve (Text.trim request.label) = .ok (server, settings))
    (hasked : (session.gateway.breakers.attempt (Text.trim request.label) settings
      session.now).1 = some admission) (reply : Outgoing → Reply) (reading : Reading) :
    let done := session.step s (.call request reply reading)
    let stages : List Stage := [.body, .policy, .tier, .limit, .credential] ++ [.delivery]
    (session.firstFaultOf s request reply stages = none ∧
        ∃ output, done.1.told = .result (.ok output)) ∨
      ∃ stage fault, session.firstFaultOf s request reply stages = some (stage, fault) ∧
        session.EndsIn s request stage fault done.1 done.2 := by
  intro done stages
  obtain ⟨hserver, hsettings⟩ := of_resolve_eq_ok hresolve
  obtain ⟨-, -, -, hlabel, -, -⟩ := Request.toCall_eq_ok_iff.mp hcall
  rw [← hlabel] at hresolve
  rw [firstFaultOf_append]
  rcases firstFaultOf_prepare s reply hcall hserver with
    ⟨r, stage, hfirst, hprepare⟩ | ⟨outgoing, remaining, hfirst, hsent, hprepare⟩
  · have hstart := Gateway.start_of_prepare_eq_error hresolve (hlabel ▸ hasked) (by rw [hprepare])
    have hsilent : r.recorded = false := Gateway.recorded_of_prepare (by rw [hprepare])
    rw [hfirst, Option.some_or]
    refine Or.inr ⟨stage, .rejected r, rfl, endsIn_of_start_eq_error hcall hstart
      (by rw [hprepare]) (Or.inr ⟨settings, hsettings, ?_⟩) reading⟩
    exact (settle_attempt (hlabel ▸ hasked) hsilent).trans (by rw [hlabel])
  · have hstart := Gateway.start_of_prepare_eq_ok hresolve (hlabel ▸ hasked) (by rw [hprepare])
    rw [hfirst, Option.none_or]
    cases hreply : reply outgoing with
    | error cause =>
      have hfault : session.faultAt s request reply .delivery =
          some (.rejected (.delivery cause)) := by
        simp [faultAt, hsent, hreply]
      exact Or.inr ⟨.delivery, _, firstFaultOf_cons_of_some hfault, endsIn_of_start_eq_ok hcall
        hstart (by rw [hprepare]) hsettings (by rw [hlabel]) hasked hreply reading⟩
    | ok answer =>
      have hfault : session.faultAt s request reply .delivery = none := by
        simp [faultAt, hsent, hreply]
      refine Or.inl ⟨firstFaultOf_cons_of_none hfault, ?_⟩
      have hstarted := congrArg Prod.fst hstart
      dsimp only [done]
      rw [step, startCall_of_ok hcall hstarted, hreply, finishCall_fst]
      exact ⟨_, rfl⟩

/-- A call is answered if no stage finds a fault, and otherwise ends in the first fault. -/
theorem call_cases (s : Gateway.Settings) (session : Session) (request : Request)
    (reply : Outgoing → Reply) (reading : Reading) :
    let done := session.step s (.call request reply reading)
    (session.firstFaultOf s request reply Stage.inOrder = none ∧
        ∃ output, done.1.told = .result (.ok output)) ∨
      ∃ stage fault, session.firstFaultOf s request reply Stage.inOrder = some (stage, fault) ∧
        session.EndsIn s request stage fault done.1 done.2 := by
  intro done
  have horder : Stage.inOrder = [.label, .tool] ++ ([.lookup, .enabled, .settings] ++ (.breaker ::
      ([.body, .policy, .tier, .limit, .credential] ++ [.delivery]))) := rfl
  rw [horder, firstFaultOf_append]
  cases hcall : request.toCall with
  | error failure =>
    obtain ⟨stage, hstage, hfirst⟩ := firstFaultOf_names_of_error s session reply hcall
    have huncounted : stage.isCounted = false :=
      (by decide : ∀ stage ∈ [Stage.label, .tool], stage.isCounted = false) stage hstage
    have hrequest : (Event.call request reply reading).request? = some request := rfl
    have hdone : done = (⟨[], [], .result (.error failure)⟩, session) :=
      step_of_toCall_eq_error hrequest hcall
    rw [hfirst, Option.some_or, hdone]
    refine Or.inr ⟨stage, .unnamed failure, rfl, rfl, rfl, fun _ => rfl, ?_, fun _ => Or.inl rfl⟩
    rw [huncounted, if_neg Bool.false_ne_true]
  | ok call =>
    obtain ⟨-, -, -, hlabel, -, -⟩ := Request.toCall_eq_ok_iff.mp hcall
    rw [firstFaultOf_names_of_ok hcall, Option.none_or, firstFaultOf_append]
    cases hresolve : session.gateway.resolve (Text.trim request.label) with
    | error r =>
      obtain ⟨stage, hstage, hfirst⟩ := firstFaultOf_record_of_error s reply hresolve
      have huncounted : stage.isCounted = false :=
        (by decide : ∀ stage ∈ [Stage.lookup, .enabled, .settings], stage.isCounted = false)
          stage hstage
      rw [hfirst, Option.some_or]
      refine Or.inr ⟨stage, .rejected r, rfl, endsIn_of_start_eq_error hcall
        (Gateway.start_of_resolve_eq_error (by rw [hlabel, hresolve])) ?_ (Or.inl rfl) reading⟩
      rw [huncounted, if_neg Bool.false_ne_true]
    | ok found =>
      obtain ⟨server, settings⟩ := found
      have hfault := faultAt_breaker s reply hresolve
      rw [firstFaultOf_record_of_ok hresolve, Option.none_or]
      cases hasked : (session.gateway.breakers.attempt (Text.trim request.label) settings
          session.now).1 with
      | none =>
        rw [hasked, Option.isSome_none, if_neg Bool.false_ne_true] at hfault
        rw [firstFaultOf_cons_of_some hfault]
        refine Or.inr ⟨.breaker, .rejected .circuitOpen, rfl, endsIn_of_start_eq_error hcall
          (Gateway.start_of_attempt_eq_none (hlabel ▸ hresolve) (hlabel ▸ hasked)) rfl
          (Or.inr ⟨settings, (of_resolve_eq_ok hresolve).2, ?_⟩) reading⟩
        rw [Breakers.askInVain, hasked, if_neg (by simp), hlabel]
      | some admission =>
        rw [hasked, Option.isSome_some, if_pos rfl] at hfault
        rw [firstFaultOf_cons_of_none hfault]
        exact call_cases_of_admitted hcall hresolve hasked reply reading

end Session

end ToolGateway
