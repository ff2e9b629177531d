import ToolGateway.Proofs.Gateway.FirstFault

/-!
# Rejected calls leave no trace

A call that ends in an error has done what the stages that it passed do, and no more. Records and
policy are as before in any case. The limiter is as before unless it was asked, and where it refused
the call it has counted nothing. Nothing was sent unless the tool server failed to answer. The
breakers have taken note only of evidence against the tool server; otherwise, whatever they are used
for from then on, they answer as if the call had not been made.
-/

namespace ToolGateway

namespace Limiter

variable {limiter : Limiter} {key other : String} {limit window now time : Nat}

/-- How many calls of a key are counted in the window of the time `now`. -/
def taken (limiter : Limiter) (key : String) (window now : Nat) : Nat :=
  ((limiter.windowOf key now).roll window now).count

/-- A window that has been looked at counts the same later on. -/
theorem count_roll_roll (w : Window) (h : now ≤ time) :
    ((w.roll window now).roll window time).count = (w.roll window time).count := by
  unfold Window.roll
  by_cases hover : window ≤ now - w.startedAt
  · have hlater : window ≤ time - w.startedAt := by omega
    rw [if_pos hover, if_pos hlater]
    split <;> rfl
  · rw [if_neg hover]

/-- A window in which nothing was counted counts nothing later on. -/
theorem count_roll_of_count_eq_zero {w : Window} (h : w.count = 0) :
    (w.roll window now).count = 0 := by
  unfold Window.roll
  split
  · rfl
  · exact h

/-- A call that is refused is counted in no window, now or later. -/
theorem taken_spend_of_refused (h : (limiter.spend key limit window now).1.permitted = false)
    (htime : now ≤ time) :
    (limiter.spend key limit window now).2.taken other window time =
      limiter.taken other window time := by
  by_cases hkey : key = other
  · subst hkey
    have hafter : (limiter.spend key limit window now).2.get? key =
        some ((limiter.windowOf key now).roll window now) := by
      have hfull : limit ≤ ((limiter.windowOf key now).roll window now).count := by
        refine Nat.le_of_not_lt fun hroom => ?_
        simp [spend, Window.take, Nat.not_le.mpr hroom] at h
      simp [spend, Window.take, hfull]
    rw [taken, windowOf, hafter, Option.getD_some, count_roll_roll _ htime, taken]
    unfold windowOf
    cases limiter.get? key with
    | some w => rfl
    | none =>
      rw [Option.getD_none, Option.getD_none, count_roll_of_count_eq_zero rfl,
        count_roll_of_count_eq_zero rfl]
  · rw [taken, windowOf, get?_spend_of_ne _ _ _ _ hkey]
    rfl

end Limiter

namespace Stage

variable {passed rest : List Stage} {stage : Stage}

/-- What holds of every two stages in their order holds of a stage and those behind it. -/
theorem of_mem_rest {R : Stage → Stage → Prop} (hsorted : inOrder.Pairwise R)
    (horder : inOrder = passed ++ stage :: rest) {later : Stage} (h : later ∈ rest) :
    R stage later := by
  rw [horder] at hsorted
  exact (List.pairwise_cons.mp (List.pairwise_append.mp hsorted).2.1).1 later h

/-- What holds of every two stages in their order holds of those before a stage and it. -/
theorem of_mem_passed {R : Stage → Stage → Prop} (hsorted : inOrder.Pairwise R)
    (horder : inOrder = passed ++ stage :: rest) {earlier : Stage} (h : earlier ∈ passed) :
    R earlier stage := by
  rw [horder] at hsorted
  exact (List.pairwise_append.mp hsorted).2.2 earlier h stage List.mem_cons_self

/-- A call has been counted at a stage if and only if the limiter is not still to come. -/
theorem isCounted_iff (horder : inOrder = passed ++ stage :: rest) :
    stage.isCounted = true ↔ .limit ∉ rest := by
  have hbefore : inOrder.Pairwise fun a b => b = .limit → a.isCounted = false := by decide
  have hbehind : inOrder.Pairwise fun a b => a = .limit → b.isCounted = true := by decide
  constructor
  · intro hcounted hlimit
    rw [of_mem_rest hbefore horder hlimit rfl] at hcounted
    cases hcounted
  · intro hlimit
    have hmem : Stage.limit ∈ passed ++ stage :: rest := horder ▸ by decide
    rcases List.mem_append.mp hmem with h | h
    · exact of_mem_passed hbehind horder h rfl
    · rcases List.mem_cons.mp h with rfl | h
      · rfl
      · exact absurd h hlimit

/-- A stage before the delivery is another one. -/
theorem ne_delivery_of_mem (horder : inOrder = passed ++ stage :: rest) (h : .delivery ∈ rest) :
    stage ≠ .delivery :=
  have hsorted : inOrder.Pairwise fun a b => b = .delivery → a ≠ .delivery := by decide
  of_mem_rest hsorted horder h rfl

end Stage

namespace Session

variable {s : Gateway.Settings} {session : Session} {request : Request} {reply : Outgoing → Reply}

/-- A whole call touches breakers and limiter alone. -/
theorem step_call_snd (session : Session) (request : Request) (reply : Outgoing → Reply)
    (reading : Reading) :
    ∃ breakers limiter, (session.step s (.call request reply reading)).2 =
      { session with gateway := { session.gateway with breakers, limiter } } := by
  rw [step]
  rcases startCall_cases (s := s) session request reading _ with
    ⟨failure, -, h⟩ | ⟨call, r, -, -, h⟩ | ⟨call, flight, -, -, h⟩ <;> rw [h]
  · exact ⟨_, _, rfl⟩
  · obtain ⟨breakers, limiter, hstart⟩ := session.gateway.start_snd s session.now call
    exact ⟨breakers, limiter, by rw [hstart]⟩
  · obtain ⟨breakers, limiter, hstart⟩ := session.gateway.start_snd s session.now call
    rw [finishCall_snd, hstart]
    obtain ⟨breakers', hfinish⟩ := Gateway.finish_snd
      { session.gateway with breakers, limiter } session.now flight (reply flight.request)
    exact ⟨breakers', limiter, by rw [hfinish]⟩

/-- Where the limiter finds a fault it has refused the call. -/
theorem permitted_of_faultAt_limit {fault : CallFault}
    (h : session.faultAt s request reply .limit = some fault) :
    (session.spentOn s request).1.permitted = false := by
  cases hpermitted : (session.spentOn s request).1.permitted with
  | false => rfl
  | true =>
    rw [faultAt, hpermitted, if_pos rfl] at h
    cases h

/-- A call ends in an error if and only if some stage finds a fault, and then in that of the first
such stage, whatever the later ones would find. It leaves records, policy and waiting calls as they
were; the limiter, if the fault comes before the limiter is asked; the calls counted, if the limiter
refuses it; the tool server in peace, if the fault comes before the call is sent. And unless the
breaker takes note of the fault, no position, count and opening time of a breaker has changed, and
as long as the blackout of the label is kept, all later uses of the breakers are answered as if the
call had not been made. -/
theorem rejected_call_unnoticed (s : Gateway.Settings) (session : Session) (request : Request)
    (reply : Outgoing → Reply) (reading : Reading) :
    let done := session.step s (.call request reply reading)
    (∃ breakers limiter, done.2 =
      { session with gateway := { session.gateway with breakers, limiter } }) ∧
    (∀ failure, done.1.told = .result (.error failure) → ∃ passed stage rest fault,
      Stage.inOrder = passed ++ stage :: rest ∧
        (∀ earlier ∈ passed, session.faultAt s request reply earlier = none) ∧
        session.faultAt s request reply stage = some fault ∧ fault.failure = failure) ∧
    ∀ passed stage rest fault, Stage.inOrder = passed ++ stage :: rest →
      (∀ earlier ∈ passed, session.faultAt s request reply earlier = none) →
      session.faultAt s request reply stage = some fault →
        done.1.told = .result (.error fault.failure) ∧
        done.1.audited.map (·.details.outcome) = fault.outcome?.toList ∧
        (.limit ∈ rest → done.2.gateway.limiter = session.gateway.limiter) ∧
        (.limit ∉ rest → done.2.gateway.limiter = (session.spentOn s request).2) ∧
        (stage = .limit → ∀ key time, session.now ≤ time →
          done.2.gateway.limiter.taken key s.window time =
            session.gateway.limiter.taken key s.window time) ∧
        (.delivery ∈ rest → done.1.forwarded = []) ∧
        (fault.recorded = false →
          (∀ label, (done.2.gateway.breakers.of label).isOpen =
              (session.gateway.breakers.of label).isOpen ∧
            (done.2.gateway.breakers.of label).failures =
              (session.gateway.breakers.of label).failures ∧
            (done.2.gateway.breakers.of label).openedAt =
              (session.gateway.breakers.of label).openedAt) ∧
          ∀ uses : List (String × Breaker.Event), (∀ entry ∈ uses, session.now ≤ entry.2.time) →
            (∀ settings, session.settingsOf request = some settings →
              Breakers.KeepsBlackout (Text.trim request.label) settings.blackout uses) →
            done.2.gateway.breakers.answers uses = session.gateway.breakers.answers uses) := by
  intro done
  have hcases := session.call_cases s request reply reading
  refine ⟨step_call_snd session request reply reading, fun failure htold => ?_, ?_⟩
  · rcases hcases with ⟨-, output, hok⟩ | ⟨stage, fault, hfirst, hends⟩
    · rw [hok] at htold
      cases htold
    · obtain ⟨passed, rest, horder, hpassed, hfault⟩ := firstFaultOf_eq_some_iff.mp hfirst
      refine ⟨passed, stage, rest, fault, horder, hpassed, hfault, ?_⟩
      have hsame := hends.told.symm.trans htold
      cases hsame
      rfl
  · intro passed stage rest fault horder hpassed hfault
    have hfirst := firstFaultOf_eq_some_iff.mpr ⟨passed, rest, horder, hpassed, hfault⟩
    have hends : session.EndsIn s request stage fault done.1 done.2 := by
      rcases hcases with ⟨hnone, -⟩ | ⟨stage', fault', hfirst', hends⟩
      · rw [hfirst] at hnone
        cases hnone
      · rw [hfirst] at hfirst'
        cases hfirst'
        exact hends
    have hcounted := Stage.isCounted_iff horder
    refine ⟨hends.told, hends.recorded, fun hlimit => ?_, fun hlimit => ?_, ?_,
      fun hdelivery => hends.unsent (Stage.ne_delivery_of_mem horder hdelivery), fun hsilent => ?_⟩
    · rw [hends.limiter, if_neg fun h => hcounted.mp h hlimit]
    · rw [hends.limiter, if_pos (hcounted.mpr hlimit)]
    · rintro rfl key time htime
      rw [hends.limiter, Stage.isCounted, if_pos rfl]
      exact Limiter.taken_spend_of_refused (permitted_of_faultAt_limit hfault) htime
    · rcases hends.breakers hsilent with hsame | ⟨settings, hsettings, hasked⟩
      · rw [hsame]
        exact ⟨fun _ => ⟨rfl, rfl, rfl⟩, fun _ _ _ => rfl⟩
      · obtain ⟨hshown, hanswers⟩ := session.gateway.breakers.askInVain_unnoticed
          (Text.trim request.label) settings session.now
        rw [hasked]
        exact ⟨hshown, fun uses htimes hkept => hanswers uses htimes (hkept settings hsettings)⟩

/-- A trial that nobody answered is over, and a call with a malformed body becomes the next one. It
is rejected and gives the place back, so that the place is empty where the old trial was; yet the
breaker admits one more trial and then none. -/
theorem rejected_call_unnoticed_of_trial :
    let s : Gateway.Settings := ⟨60, 60 * Time.second, none⟩
    let request (body : Bytes) : Request := ⟨"me", "s", "echo", body⟩
    let settings : Breaker.Settings := ⟨1, 30 * Time.second⟩
    let session := ((Session.new (Gateway.new [] .empty)).run s [.addDefault ⟨"*", .auto, 0⟩,
      .register ⟨"s", "http://127.0.0.1:9100", .none, none, true,
        some "\x7b\"fail_threshold\":1\x7d"⟩,
      .call (request [0x7b, 0x7d]) (fun _ => .ok ⟨500, .null⟩) ⟨0, 0⟩, .advance (30 * Time.second),
      .start "trial" (request [0x7b, 0x7d]) ⟨0, 0⟩, .advance (30 * Time.second)]).2
    let done := session.step s (.call (request [0x7b]) (fun _ => .ok ⟨200, .null⟩) ⟨0, 0⟩)
    let uses : List (String × Breaker.Event) :=
      [("s", ⟨session.now, .attempt settings⟩), ("s", ⟨session.now + 1, .attempt settings⟩)]
    done.1.told = .result (.error (.invalid "invalid request body")) ∧
      done.2.gateway.limiter = session.gateway.limiter ∧
      (session.gateway.breakers.of "s").trialAt = some (30 * Time.second) ∧
      (done.2.gateway.breakers.of "s").trialAt = none ∧
      done.2.gateway.breakers.answers uses = session.gateway.breakers.answers uses ∧
      session.gateway.breakers.answers uses = [some .trial, none] := by
  intro s request settings session done uses
  have hpassed : ∀ earlier ∈ [Stage.label, .tool, .lookup, .enabled, .settings, .breaker],
      session.faultAt s (request [0x7b]) (fun _ => .ok ⟨200, .null⟩) earlier = none := by
    decide +kernel +revert
  have hfault : session.faultAt s (request [0x7b]) (fun _ => .ok ⟨200, .null⟩) .body =
      some (.rejected .invalidBody) := by
    decide +kernel +revert
  have hsettings : session.settingsOf (request [0x7b]) = some settings := by
    decide +kernel +revert
  have hbefore : (session.gateway.breakers.of "s").trialAt = some (30 * Time.second) := by
    decide +kernel +revert
  have hafter : (done.2.gateway.breakers.of "s").trialAt = none := by decide +kernel +revert
  have hanswers : session.gateway.breakers.answers uses = [some .trial, none] := by
    decide +kernel +revert
  have hends := (rejected_call_unnoticed s session (request [0x7b]) (fun _ => .ok ⟨200, .null⟩)
    ⟨0, 0⟩).2.2 [.label, .tool, .lookup, .enabled, .settings, .breaker] .body
      [.policy, .tier, .limit, .credential, .delivery] _ rfl hpassed hfault
  have hdone : done = session.step s (.call (request [0x7b]) (fun _ => .ok ⟨200, .null⟩) ⟨0, 0⟩) :=
    rfl
  rw [← hdone] at hends
  clear_value done session
  have htimes : ∀ entry ∈ uses, session.now ≤ entry.2.time := by simp [uses]
  have hkept (settings' : Breaker.Settings)
      (h : session.settingsOf (request [0x7b]) = some settings') :
      Breakers.KeepsBlackout (Text.trim (request [0x7b]).label) settings'.blackout uses := by
    rw [hsettings, Option.some.injEq] at h
    intro e asked hmem hask
    simp only [uses, List.mem_cons, List.not_mem_nil, or_false, Prod.mk.injEq] at hmem
    rcases hmem with ⟨-, rfl⟩ | ⟨-, rfl⟩ <;> cases hask <;> rw [h]
  obtain ⟨htold, -, hlimiter, -, -, -, hunnoticed⟩ := hends
  exact ⟨htold, hlimiter (by decide), hbefore, hafter, (hunnoticed rfl).2 uses htimes hkept,
    hanswers⟩

end Session

end ToolGateway
