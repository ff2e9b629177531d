import ToolGateway.Gateway.Session

/-!
# What passing each check means

One statement for each check of a gateway: the check passes exactly under this condition, and this
is what it yields. The conditions are put together for a whole call by `start_fst_eq_ok_iff`, so
that no later proof opens a check again.
-/

namespace ToolGateway.Gateway

variable {g : Gateway} {s : Settings} {now : Nat} {call : Call} {server : ToolServer}

/-- A label resolves to its record if the registry can be read, the record is enabled and its
breaker settings are readable. -/
theorem resolve_eq_ok_iff {label : String} {breaker : Breaker.Settings} :
    g.resolve label = .ok (server, breaker) ↔
      g.registryOutage = none ∧ g.registry.get? label = some server ∧ server.enabled = true ∧
        Breaker.Settings.parse? server.breaker = some breaker := by
  constructor
  · intro h
    unfold resolve at h
    cases houtage : g.registryOutage with
    | some reason => simp [houtage] at h
    | none =>
      cases hfound : g.registry.get? label with
      | none => simp [houtage, hfound] at h
      | some found =>
        cases henabled : found.enabled with
        | false => simp [houtage, hfound, henabled] at h
        | true =>
          cases hparse : Breaker.Settings.parse? found.breaker with
          | none => simp [houtage, hfound, henabled, hparse] at h
          | some settings =>
            simp only [houtage, hfound, henabled, hparse, if_true, Except.ok.injEq,
              Prod.mk.injEq] at h
            obtain ⟨rfl, rfl⟩ := h
            exact ⟨rfl, rfl, henabled, hparse⟩
  · rintro ⟨houtage, hfound, henabled, hparse⟩
    simp [resolve, houtage, hfound, henabled, hparse]

/-- A body passes if it is readable. -/
theorem readBody_eq_ok_iff {body : CallBody} :
    readBody call = .ok body ↔ CallBody.parse? call.body = some body := by
  unfold readBody
  cases CallBody.parse? call.body <;> simp

/-- The policy lets a call pass if its decision is `auto`. -/
theorem checkTrust_eq_ok_iff {tool : String} {body : CallBody} :
    g.checkTrust tool body = .ok () ↔
      (g.policy.source.during g.outages).decide ⟨tool, body.agent, body.workspace⟩ = .ok .auto := by
  unfold checkTrust
  cases (g.policy.source.during g.outages).decide ⟨tool, body.agent, body.workspace⟩ with
  | error cause => simp
  | ok tier => cases tier <;> simp [Trust.Tier.permits]

/-- A credential is left out where no scheme is given, and opened with the key otherwise. -/
theorem openCredential_eq_ok_iff {credential : Option Credential} :
    openCredential s server = .ok credential ↔
      (server.scheme = .none ∧ credential = none) ∨
        server.scheme ≠ .none ∧ ∃ stored key secret, server.credential = some stored ∧
          s.key = some key ∧ key.openStored stored = .ok secret ∧
          credential = some ⟨server.scheme, secret⟩ := by
  unfold openCredential
  by_cases hscheme : server.scheme = .none
  · simp [hscheme, eq_comm]
  · rw [if_neg hscheme]
    cases server.credential with
    | none => simp [hscheme]
    | some stored =>
      cases s.key with
      | none => simp [hscheme]
      | some key =>
        cases hopen : key.openStored stored with
        | error cause => simp [hscheme, hopen]
        | ok secret => simp [hscheme, hopen, eq_comm]

/-- The checks behind the breaker pass if the body is readable, the policy says `auto`, the caller
has calls left and the credential opens, and they yield the request of these. -/
theorem prepare_fst_eq_ok_iff {request : Outgoing} {remaining : Nat} :
    (g.prepare s now call server).1 = .ok (request, remaining) ↔
      ∃ body credential, CallBody.parse? call.body = some body ∧
        (g.policy.source.during g.outages).decide ⟨call.tool, body.agent, body.workspace⟩ =
          .ok .auto ∧
        (g.limiter.spend (Limiter.callKey call.label call.tool call.caller) s.limit s.window
          now).1.permitted = true ∧
        openCredential s server = .ok credential ∧
        request = outgoing call server body credential ∧
        remaining = (g.limiter.spend (Limiter.callKey call.label call.tool call.caller) s.limit
          s.window now).1.remaining := by
  unfold prepare
  cases hbody : readBody call with
  | error r =>
    have hnone : ∀ body, CallBody.parse? call.body ≠ some body := fun body h => by
      rw [readBody_eq_ok_iff.mpr h] at hbody
      contradiction
    simp [hnone]
  | ok body =>
    rw [readBody_eq_ok_iff.mp hbody]
    dsimp only
    cases htrust : g.checkTrust call.tool body with
    | error r =>
      have hdenied : (g.policy.source.during g.outages).decide
          ⟨call.tool, body.agent, body.workspace⟩ ≠ .ok .auto := fun h => by
        rw [checkTrust_eq_ok_iff.mpr h] at htrust
        contradiction
      simp [hdenied]
    | ok _ =>
      rcases hspend : g.limiter.spend (Limiter.callKey call.label call.tool call.caller) s.limit
        s.window now with ⟨verdict, limiter⟩
      dsimp only
      cases hpermitted : verdict.permitted with
      | false => simp
      | true =>
        cases hopen : openCredential s server with
        | error r => simp
        | ok credential => simp [checkTrust_eq_ok_iff.mp htrust, eq_comm]

/-- A call leaves the gateway if its label resolves, the breaker of the label admits it and the
checks behind the breaker pass; what waits then is the call with what these checks yielded. -/
theorem start_fst_eq_ok_iff {flight : InFlight} :
    (g.start s now call).1 = .ok flight ↔
      ∃ server, g.resolve call.label = .ok (server, flight.breaker) ∧
        (g.breakers.attempt call.label flight.breaker now).1 = some flight.admission ∧
        (g.prepare s now call server).1 = .ok (flight.request, flight.remaining) ∧
        flight.call = call ∧ flight.since = now := by
  constructor
  · intro h
    unfold start at h
    cases hresolve : g.resolve call.label with
    | error r => simp [hresolve] at h
    | ok found =>
      obtain ⟨server, breaker⟩ := found
      rcases hattempt : g.breakers.attempt call.label breaker now with ⟨admission, breakers⟩
      cases admission with
      | none => simp [hresolve, hattempt] at h
      | some admission =>
        rcases hprepare : g.prepare s now call server with ⟨outcome, limiter⟩
        cases outcome with
        | error r => simp [hresolve, hattempt, hprepare] at h
        | ok ready =>
          simp only [hresolve, hattempt, hprepare, Except.ok.injEq] at h
          subst h
          exact ⟨server, rfl, by rw [hattempt], by rw [hprepare], rfl, rfl⟩
  · rintro ⟨server, hresolve, hattempt, hprepare, rfl, rfl⟩
    unfold start
    rw [hresolve]
    dsimp only
    rcases hasked : g.breakers.attempt flight.call.label flight.breaker flight.since with
      ⟨admission, breakers⟩
    rcases hready : g.prepare s flight.since flight.call server with ⟨outcome, limiter⟩
    rw [hasked] at hattempt
    rw [hready] at hprepare
    dsimp only at hattempt hprepare
    subst hattempt hprepare
    rfl

/-! ## What failing means

Which rejections a check gives, and what a rejected call leaves behind. -/

/-- A label that does not resolve is rejected for its record. -/
theorem of_resolve_eq_error {label : String} {r : Rejection} (h : g.resolve label = .error r) :
    (∃ reason, r = .registryFailure reason) ∨ r = .serverNotFound ∨ r = .serverDisabled ∨
      r = .invalidBreaker := by
  unfold resolve at h
  split at h
  · cases h
    exact Or.inl ⟨_, rfl⟩
  · split at h
    · cases h
      simp
    · split at h
      · split at h <;> cases h
        simp
      · cases h
        simp

/-- The policy rejects a call because it cannot be read or because of a tier. -/
theorem of_checkTrust_eq_error {tool : String} {body : CallBody} {r : Rejection}
    (h : g.checkTrust tool body = .error r) :
    (∃ cause, r = .policyFailure cause) ∨ ∃ tier, r = .trustDenied tier := by
  unfold checkTrust at h
  split at h
  · cases h
    exact Or.inl ⟨_, rfl⟩
  · split at h <;> cases h
    exact Or.inr ⟨_, rfl⟩

/-- A credential that is needed may be missing, without a key, or unreadable. -/
theorem of_openCredential_eq_error {r : Rejection} (h : openCredential s server = .error r) :
    r = .credentialMissing ∨ r = .keyMissing ∨ ∃ cause, r = .credentialUnreadable cause := by
  unfold openCredential at h
  split at h
  · cases h
  · split at h
    · cases h
      exact Or.inl rfl
    · cases h
      exact Or.inr (Or.inl rfl)
    · split at h <;> cases h
      exact Or.inr (Or.inr ⟨_, rfl⟩)

/-- A call passes the checks between the breaker and the limiter: its body is readable and the
policy lets it pass. -/
def passesPolicy (g : Gateway) (call : Call) : Bool :=
  match readBody call with
  | .error _ => false
  | .ok body => (g.checkTrust call.tool body).isOk

/-- The three ways in which the checks behind the breaker end: before the limiter is asked, with
its refusal, or behind it. The limiter counts the call in the last two. -/
theorem prepare_cases (g : Gateway) (s : Settings) (now : Nat) (call : Call)
    (server : ToolServer) :
    let spent := g.limiter.spend (Limiter.callKey call.label call.tool call.caller) s.limit s.window
      now
    (g.passesPolicy call = false ∧ ∃ r, g.prepare s now call server = (.error r, g.limiter) ∧
        (r = .invalidBody ∨ (∃ cause, r = .policyFailure cause) ∨ ∃ tier, r = .trustDenied tier)) ∨
      (g.passesPolicy call = true ∧ spent.1.permitted = false ∧
        g.prepare s now call server = (.error (.rateLimited spent.1.resetAfter), spent.2)) ∨
      (g.passesPolicy call = true ∧ spent.1.permitted = true ∧
        ((∃ r, openCredential s server = .error r ∧
            g.prepare s now call server = (.error r, spent.2)) ∨
          ∃ request, g.prepare s now call server = (.ok (request, spent.1.remaining), spent.2))) := by
  intro spent
  unfold prepare passesPolicy
  cases hbody : readBody call with
  | error r =>
    refine Or.inl ⟨rfl, r, rfl, Or.inl ?_⟩
    unfold readBody at hbody
    split at hbody <;> simp_all
  | ok body =>
    dsimp only
    cases htrust : g.checkTrust call.tool body with
    | error r => exact Or.inl ⟨rfl, r, rfl, Or.inr (of_checkTrust_eq_error htrust)⟩
    | ok _ =>
      refine Or.inr ?_
      dsimp only
      cases hpermitted : spent.1.permitted with
      | false =>
        rw [if_neg Bool.false_ne_true]
        exact Or.inl ⟨rfl, rfl, rfl⟩
      | true =>
        rw [if_pos rfl]
        refine Or.inr ⟨rfl, rfl, ?_⟩
        cases hopen : openCredential s server with
        | error r => exact Or.inl ⟨r, rfl, rfl⟩
        | ok credential => exact Or.inr ⟨_, rfl⟩

/-- No check behind the breaker rejects a call for an open circuit. -/
theorem prepare_fst_ne_circuitOpen (g : Gateway) (s : Settings) (now : Nat) (call : Call)
    (server : ToolServer) : (g.prepare s now call server).1 ≠ .error .circuitOpen := by
  intro h
  rcases g.prepare_cases s now call server with
    ⟨-, r, hprepare, hearly⟩ | ⟨-, -, hprepare⟩ | ⟨-, -, ⟨r, hopen, hprepare⟩ | ⟨request, hprepare⟩⟩ <;>
    rw [hprepare] at h <;> cases h
  · rcases hearly with hr | ⟨_, hr⟩ | ⟨_, hr⟩ <;> cases hr
  · rcases of_openCredential_eq_error hopen with hr | hr | ⟨_, hr⟩ <;> cases hr

/-- No check behind the breaker reports anything to it. -/
theorem recorded_of_prepare {r : Rejection} (h : (g.prepare s now call server).1 = .error r) :
    r.recorded = false := by
  rcases g.prepare_cases s now call server with
    ⟨-, r', hprepare, hearly⟩ | ⟨-, -, hprepare⟩ | ⟨-, -, ⟨r', hopen, hprepare⟩ | ⟨request, hprepare⟩⟩
  · rw [hprepare] at h
    cases h
    rcases hearly with rfl | ⟨cause, rfl⟩ | ⟨tier, rfl⟩ <;> rfl
  · rw [hprepare] at h
    cases h
    rfl
  · rw [hprepare] at h
    cases h
    rcases of_openCredential_eq_error hopen with rfl | rfl | ⟨cause, rfl⟩ <;> rfl
  · rw [hprepare] at h
    cases h

/-! ## How a call begins

One equation for each stage at which the beginning of a call ends. -/

/-- A label that does not resolve ends it at once. -/
theorem start_of_resolve_eq_error {r : Rejection} (hresolve : g.resolve call.label = .error r) :
    g.start s now call = (.error r, g) := by
  rw [start, hresolve]

/-- A breaker that refuses the call ends it, and has only been asked. -/
theorem start_of_attempt_eq_none {breaker : Breaker.Settings}
    (hresolve : g.resolve call.label = .ok (server, breaker))
    (hattempt : (g.breakers.attempt call.label breaker now).1 = none) :
    g.start s now call =
      (.error .circuitOpen,
        { g with breakers := (g.breakers.attempt call.label breaker now).2 }) := by
  rw [start, hresolve]
  dsimp only
  rcases hasked : g.breakers.attempt call.label breaker now with ⟨admission, breakers⟩
  rw [hasked] at hattempt
  dsimp only at hattempt
  subst hattempt
  rfl

/-- A check behind the breaker ends it, and a trial gives its place back. -/
theorem start_of_prepare_eq_error {breaker : Breaker.Settings} {admission : Admission}
    {r : Rejection} (hresolve : g.resolve call.label = .ok (server, breaker))
    (hattempt : (g.breakers.attempt call.label breaker now).1 = some admission)
    (hprepare : (g.prepare s now call server).1 = .error r) :
    g.start s now call =
      (.error r, { g with
        breakers :=
          settle (g.breakers.attempt call.label breaker now).2 call.label admission r
        limiter := (g.prepare s now call server).2 }) := by
  rw [start, hresolve]
  dsimp only
  rcases hasked : g.breakers.attempt call.label breaker now with ⟨answer, breakers⟩
  rcases hready : g.prepare s now call server with ⟨outcome, limiter⟩
  rw [hasked] at hattempt
  rw [hready] at hprepare
  dsimp only at hattempt hprepare
  subst hattempt hprepare
  rfl

/-- A call that passes all checks waits for its reply. -/
theorem start_of_prepare_eq_ok {breaker : Breaker.Settings} {admission : Admission}
    {request : Outgoing} {remaining : Nat}
    (hresolve : g.resolve call.label = .ok (server, breaker))
    (hattempt : (g.breakers.attempt call.label breaker now).1 = some admission)
    (hprepare : (g.prepare s now call server).1 = .ok (request, remaining)) :
    g.start s now call =
      (.ok ⟨call, admission, now, breaker, remaining, request⟩, { g with
        breakers := (g.breakers.attempt call.label breaker now).2
        limiter := (g.prepare s now call server).2 }) := by
  rw [start, hresolve]
  dsimp only
  rcases hasked : g.breakers.attempt call.label breaker now with ⟨answer, breakers⟩
  rcases hready : g.prepare s now call server with ⟨outcome, limiter⟩
  rw [hasked] at hattempt
  rw [hready] at hprepare
  dsimp only at hattempt hprepare
  subst hattempt hprepare
  rfl

/-- A call is rejected for an open circuit if and only if its label resolves and its breaker refuses
it. -/
theorem start_fst_eq_circuitOpen_iff :
    (g.start s now call).1 = .error .circuitOpen ↔
      ∃ server breaker, g.resolve call.label = .ok (server, breaker) ∧
        (g.breakers.attempt call.label breaker now).1 = none := by
  constructor
  · intro h
    cases hresolve : g.resolve call.label with
    | error r =>
      rw [start_of_resolve_eq_error hresolve] at h
      cases h
      rcases of_resolve_eq_error hresolve with ⟨_, hr⟩ | hr | hr | hr <;> cases hr
    | ok found =>
      obtain ⟨server, breaker⟩ := found
      refine ⟨server, breaker, rfl, ?_⟩
      cases hattempt : (g.breakers.attempt call.label breaker now).1 with
      | none => rfl
      | some admission =>
        cases hprepare : (g.prepare s now call server).1 with
        | error r =>
          rw [start_of_prepare_eq_error hresolve hattempt hprepare] at h
          cases h
          exact absurd hprepare (prepare_fst_ne_circuitOpen g s now call server)
        | ok ready =>
          rw [start_of_prepare_eq_ok hresolve hattempt hprepare] at h
          cases h
  · rintro ⟨server, breaker, hresolve, hattempt⟩
    rw [start_of_attempt_eq_none hresolve hattempt]

/-! ## What a call leaves alone -/

/-- A call that begins touches the breakers and the limiter alone. -/
theorem start_snd (g : Gateway) (s : Settings) (now : Nat) (call : Call) :
    ∃ breakers limiter, (g.start s now call).2 = { g with breakers, limiter } := by
  unfold start
  cases g.resolve call.label with
  | error r => exact ⟨g.breakers, g.limiter, rfl⟩
  | ok found =>
    dsimp only
    rcases g.breakers.attempt call.label found.2 now with ⟨admission, breakers⟩
    cases admission with
    | none => exact ⟨breakers, g.limiter, rfl⟩
    | some admission =>
      rcases g.prepare s now call found.1 with ⟨outcome, limiter⟩
      cases outcome with
      | error r => exact ⟨settle breakers call.label admission r, limiter, rfl⟩
      | ok ready => exact ⟨breakers, limiter, rfl⟩

/-- A reply touches the breakers alone. -/
theorem finish_snd (g : Gateway) (now : Nat) (flight : InFlight) (reply : Reply) :
    ∃ breakers, (g.finish now flight reply).2 = { g with breakers } := by
  unfold finish
  cases reply with
  | ok answer => exact ⟨_, rfl⟩
  | error cause => exact ⟨_, rfl⟩

end ToolGateway.Gateway
