import ToolGateway.Proofs.Gateway.Isolation

/-!
# When to come back

A caller who has no calls left is told to come back in so many whole seconds. By then the window of
the refused call is over, so the next call passes the limiter unless others were made in a new
window already. A second earlier the window is not over, and whoever comes back then is refused
again. Both hold on the grid of a key, however the run goes on in between.
-/

namespace ToolGateway

namespace Limiter

/-! ## Behind a refused call -/

variable {limit window now later : Nat} {times between : List Nat} {verdict verdict' : Verdict}

/-- The grid of a key goes on behind a call. -/
theorem anchorOf_append_cons (times between : List Nat) (now later : Nat) :
    anchorOf (times ++ now :: between) later = anchorOf times now := by
  cases times <;> rfl

/-- The window of a call is never over yet. -/
theorem Judged.resetAfter_pos (hwindow : 0 < window) (h : Judged limit window times now verdict)
    (htimes : ∀ t ∈ times, t ≤ now) : 0 < verdict.resetAfter := by
  have hanchor : anchorOf times now ≤ now := anchorOf_le htimes
  have hinside : now - anchorOf times now < (indexOf window times now + 1) * window :=
    (Nat.div_lt_iff_lt_mul hwindow).mp (Nat.lt_succ_self _)
  have hreset := h.reset
  omega

/-- Until its window is over, a key with a refused call has no other one pass. -/
theorem Judged.refused_again (hwindow : 0 < window) (h : Judged limit window times now verdict)
    (hrefused : verdict.permitted = false)
    (h' : Judged limit window (times ++ now :: between) later verdict')
    (hnow : now ≤ later) (hlater : later < now + verdict.resetAfter) :
    verdict'.permitted = false := by
  have hplace : ¬ placeOf window times now ≤ limit := by
    rw [← h.permitted, hrefused]
    exact Bool.false_ne_true
  have hsame : indexOf window (times ++ now :: between) later = indexOf window times now := by
    rw [indexOf, anchorOf_append_cons]
    apply Nat.le_antisymm
    · apply Nat.le_of_lt_add_one
      rw [Nat.div_lt_iff_lt_mul hwindow]
      have hreset := h.reset
      have hlength : 0 < (indexOf window times now + 1) * window :=
        Nat.mul_pos (Nat.succ_pos _) hwindow
      omega
    · exact Nat.div_le_div_right (Nat.sub_le_sub_right hnow _)
  have hmore : placeOf window times now ≤ placeOf window (times ++ now :: between) later := by
    rw [placeOf, placeOf, hsame, anchorOf_append_cons, callsIn, callsIn, List.countP_append]
    omega
  rw [← Bool.not_eq_true, h'.permitted]
  omega

/-- Once its window is over, the next call of the key is the first of a new one, if no other was
made since then. -/
theorem Judged.permitted_after (hlimit : 0 < limit) (hwindow : 0 < window)
    (h : Judged limit window times now verdict)
    (h' : Judged limit window (times ++ now :: between) later verdict')
    (htimes : ∀ t ∈ times, t ≤ now) (hbetween : ∀ t ∈ between, t < now + verdict.resetAfter)
    (hlater : now + verdict.resetAfter ≤ later) : verdict'.permitted = true := by
  have hpositive := h.resetAfter_pos hwindow htimes
  have hreset := h.reset
  have hanchor : anchorOf times now ≤ now := anchorOf_le htimes
  have hnext : indexOf window times now + 1 ≤ indexOf window (times ++ now :: between) later := by
    rw [indexOf.eq_1 window (_ ++ _), anchorOf_append_cons, Nat.le_div_iff_mul_le hwindow]
    omega
  -- No call so far lies behind the window of the refused one.
  have hall : ∀ t ∈ times ++ now :: between, t ≤ now + verdict.resetAfter - 1 := by
    intro t ht
    rcases List.mem_append.mp ht with ht | ht
    · have := htimes t ht
      omega
    · rcases List.mem_cons.mp ht with rfl | ht
      · omega
      · have := hbetween t ht
        omega
  have hlast : (now + verdict.resetAfter - 1 - anchorOf times now) / window <
      indexOf window (times ++ now :: between) later := by
    apply Nat.lt_of_lt_of_le _ hnext
    rw [Nat.div_lt_iff_lt_mul hwindow]
    omega
  have hfirst : placeOf window (times ++ now :: between) later = 1 := by
    rw [placeOf, anchorOf_append_cons, callsIn_eq_zero hall hlast]
  rw [h'.permitted, hfirst]
  exact hlimit

end Limiter

/-- An event is a call that counts at a key. -/
def Event.IsCallOf (key : String) (event : Event) : Prop :=
  ∃ request call, event.request? = some request ∧ request.toCall = .ok call ∧
    call.subject.key = key

namespace Session

open Limiter

variable {s : Gateway.Settings} {session : Session} {events between : List Event}
  {event again : Event} {key : String} {seconds : Nat}

/-! ## Who is told to come back -/

/-- Only calls that the limiter refused are told when to come back: in the time until their window
is over, in whole seconds. -/
theorem attempt?_of_told_rateLimited
    (htold : (session.step s event).1.told = .result (.error (.rateLimited seconds))) :
    ∃ subject, session.attempt? event = some ⟨subject, session.now⟩ ∧
      let verdict := (session.gateway.limiter.spend subject.key s.limit s.window session.now).1
      verdict.permitted = false ∧ seconds = Time.wholeSeconds verdict.resetAfter := by
  obtain ⟨request, hrequest, hcall | ⟨call, r, hcall, hstart, hfailure⟩⟩ :=
    of_told_error (fun cause => delivery_failure_ne_rateLimited cause seconds) htold
  · obtain ⟨message, hfailure⟩ := Request.of_toCall_eq_error hcall
    cases hfailure
  · obtain ⟨resetAfter, rfl, hseconds⟩ := failure_eq_rateLimited_iff.mp hfailure
    rcases session.gateway.start_cases s session.now call with
      ⟨-, -, r, hother, hne⟩ | ⟨hreaches, -, ⟨hrefused, hlimited⟩ | ⟨-, hpasses⟩⟩
    · rw [hstart] at hother
      exact absurd (Except.error.inj hother).symm (hne resetAfter)
    · rw [hstart] at hlimited
      cases hlimited
      have hattempt : session.attempt? event = some ⟨call.subject, session.now⟩ :=
        attempt?_eq_some_iff.mpr ⟨request, call, hrequest, hcall, hreaches, rfl⟩
      exact ⟨call.subject, hattempt, hrefused, hseconds.symm⟩
    · rcases hpasses with ⟨r, hother, hne⟩ | ⟨flight, hleft, -⟩
      · rw [hstart] at hother
        exact absurd (Except.error.inj hother).symm (hne resetAfter)
      · rw [hstart] at hleft
        cases hleft

/-- A call that reaches the limiter is counted at its key. -/
theorem key_of_attempt? (h : event.IsCallOf key) {subject : Subject} {now : Nat}
    (hattempt : session.attempt? event = some ⟨subject, now⟩) : subject.key = key := by
  obtain ⟨request, call, hrequest, hcall, rfl⟩ := h
  obtain ⟨request', call', hrequest', hcall', -, hsubject⟩ := attempt?_eq_some_iff.mp hattempt
  obtain rfl : request = request' := Option.some.inj (hrequest.symm.trans hrequest')
  obtain rfl : call = call' := Except.ok.inj (hcall.symm.trans hcall')
  exact congrArg (fun attempt => attempt.key.key) hsubject

/-! ## The times of a key -/

/-- The attempts of a run up to an attempt and behind it. -/
theorem timesOf_attempts_append_cons {subject : Subject} {now : Nat} (hkey : subject.key = key)
    (hattempt : (session.run s events).2.attempt? event = some ⟨subject, now⟩) :
    timesOf key ((session.attempts s (events ++ event :: between)).map Attempt.keyed) =
      timesOf key ((session.attempts s events).map Attempt.keyed) ++ now ::
        timesOf key ((((session.run s events).2.step s event).2.attempts s between).map
          Attempt.keyed) := by
  rw [attempts_append, attempts, hattempt, List.map_append, timesOf_append, Option.toList_some,
    List.singleton_append, List.map_cons, ← List.singleton_append, timesOf_append,
    timesOf_singleton, Attempt.keyed, if_pos hkey]
  rfl

/-- The attempts of a key up to a moment were made before it. -/
theorem le_now_of_mem_timesOf {t : Nat}
    (h : t ∈ timesOf key ((session.attempts s events).map Attempt.keyed)) :
    t ≤ (session.run s events).2.now := by
  obtain ⟨attempt, hattempt, rfl⟩ := List.mem_map.mp h
  obtain ⟨subject, hsubject, rfl⟩ := List.mem_map.mp (List.mem_filter.mp hattempt).1
  exact (time_of_mem_attempts hsubject).2

/-- A call behind an attempt with the same key is judged by the attempts of the key on both sides of
that one, and by that one. -/
theorem judged_behind {subject subject' : Subject} {now now' : Nat} (hwindow : 0 < s.window)
    (hbound : s.window < UInt64.size) (hfresh : session.gateway.limiter = [])
    (hkey : subject.key = key)
    (hattempt : (session.run s events).2.attempt? event = some ⟨subject, now⟩)
    (hkey' : subject'.key = key)
    (hattempt' : (((session.run s events).2.step s event).2.run s between).2.attempt? again =
      some ⟨subject', now'⟩) :
    Judged s.limit s.window
      (timesOf key ((session.attempts s events).map Attempt.keyed) ++ now ::
        timesOf key ((((session.run s events).2.step s event).2.attempts s between).map
          Attempt.keyed)) now'
      ((((session.run s events).2.step s event).2.run s between).2.gateway.limiter.spend
        subject'.key s.limit s.window now').1 := by
  have hrun : (session.run s (events ++ event :: between)).2 =
      (((session.run s events).2.step s event).2.run s between).2 := by
    rw [run_append, run_cons_snd]
  rw [← hrun] at hattempt' ⊢
  rw [← timesOf_attempts_append_cons hkey hattempt, ← hkey']
  exact judged_by_key hwindow hbound hfresh hattempt'

/-- Let a limiter start afresh, with a limit above zero and a window that it can resolve, and let a
call be refused for want of calls at the end of any run. The seconds that its caller is told to wait
are at least one. However the run goes on, a later call with the same key that comes when they have
passed is not refused for want of calls, unless other calls of the key came in between when the
window of the refused call was over. One that reaches the limiter when one second less has passed,
or earlier, is refused for want of calls again, so no smaller number would do. -/
theorem retryAfter_exact (hfresh : session.gateway.limiter = []) (hlimit : 0 < s.limit)
    (hwindow : 0 < s.window) (hbound : s.window < UInt64.size) (hevent : event.IsCallOf key) :
    let refused := (session.run s events).2
    (refused.step s event).1.told = .result (.error (.rateLimited seconds)) →
    let own := timesOf key ((session.attempts s events).map Attempt.keyed)
    let anchor := own.headD refused.now
    let windowEnd := anchor + ((refused.now - anchor) / s.window + 1) * s.window
    1 ≤ seconds ∧
    ∀ between again, again.IsCallOf key →
      let later := ((refused.step s event).2.run s between).2
      let ownBetween :=
        timesOf key (((refused.step s event).2.attempts s between).map Attempt.keyed)
      (refused.now + seconds * Time.second ≤ later.now → (∀ t ∈ ownBetween, t < windowEnd) →
        ∀ more, (later.step s again).1.told ≠ .result (.error (.rateLimited more))) ∧
      (later.now ≤ refused.now + (seconds - 1) * Time.second → (later.attempt? again).isSome →
        ∃ more, (later.step s again).1.told = .result (.error (.rateLimited more))) := by
  intro refused htold own anchor windowEnd
  obtain ⟨subject, hattempt, hrefused, hseconds⟩ := attempt?_of_told_rateLimited htold
  have hkey : subject.key = key := key_of_attempt? hevent hattempt
  rw [hkey] at hrefused hseconds
  let verdict := (refused.gateway.limiter.spend key s.limit s.window refused.now).1
  have hjudged : Judged s.limit s.window own refused.now verdict := by
    have h := judged_by_key hwindow hbound hfresh hattempt
    rw [hkey] at h
    exact h
  have htimes : ∀ t ∈ own, t ≤ refused.now := fun t ht => le_now_of_mem_timesOf ht
  refine ⟨hseconds ▸ Nat.le_max_left _ _, ?_⟩
  intro between again hagain later ownBetween
  have hlater {subject' : Subject} {now : Nat}
      (hattempt' : later.attempt? again = some ⟨subject', now⟩) :
      Judged s.limit s.window (own ++ refused.now :: ownBetween) now
        (later.gateway.limiter.spend subject'.key s.limit s.window now).1 :=
    judged_behind hwindow hbound hfresh hkey hattempt (key_of_attempt? hagain hattempt') hattempt'
  constructor
  · intro hpassed hbetween more htold'
    obtain ⟨subject', hattempt', hrefused', -⟩ := attempt?_of_told_rateLimited htold'
    have hreset : refused.now + verdict.resetAfter = windowEnd := hjudged.reset
    have hend : refused.now + verdict.resetAfter ≤ later.now :=
      calc refused.now + verdict.resetAfter
          ≤ refused.now + Time.wholeSeconds verdict.resetAfter * Time.second :=
            Nat.add_le_add_left (Time.le_wholeSeconds_mul _) _
        _ = refused.now + seconds * Time.second := by rw [hseconds]
        _ ≤ later.now := hpassed
    have hpermitted := hjudged.permitted_after hlimit hwindow (hlater hattempt') htimes
      (hreset ▸ hbetween) hend
    rw [hrefused'] at hpermitted
    cases hpermitted
  · intro hearly hreaches
    obtain ⟨⟨subject', now⟩, hattempt'⟩ := Option.isSome_iff_exists.mp hreaches
    obtain ⟨_, _, -, -, -, htime⟩ := attempt?_eq_some_iff.mp hattempt'
    obtain rfl : now = later.now := congrArg Attempt.time htime
    have hnow : refused.now ≤ later.now :=
      calc refused.now
          ≤ (refused.step s event).2.now := by
            rw [now_step]
            exact Nat.le_add_right _ _
        _ ≤ later.now := now_le_run _ between
    have hend : later.now < refused.now + verdict.resetAfter :=
      calc later.now
          ≤ refused.now + (seconds - 1) * Time.second := hearly
        _ = refused.now + (Time.wholeSeconds verdict.resetAfter - 1) * Time.second := by
            rw [hseconds]
        _ < refused.now + verdict.resetAfter :=
            Nat.add_lt_add_left
              (Time.wholeSeconds_sub_one_mul_lt (hjudged.resetAfter_pos hwindow htimes)) _
    apply (told_of_attempt? hattempt').1.mpr
    exact hjudged.refused_again hwindow hrefused (hlater hattempt') hnow hend

/-- One call passes in a second and a half. A second call two tenths of a second later is told to
wait for two seconds. After one it is refused again, and after two it passes the limiter. -/
theorem retryAfter_exact_of_short_window :
    let registry := Registry.ofServers [⟨"s", "http://127.0.0.1:9100", .none, none, true, none⟩]
    let policy := Trust.Policy.empty.addDefault ⟨"*", .auto, 0⟩
    let s : Gateway.Settings := ⟨1, 1500 * Time.millisecond, none⟩
    let call : Event := .call ⟨"me", "s", "echo", [0x7b, 0x7d]⟩ (fun _ => .ok ⟨200, .null⟩) ⟨0, 0⟩
    let refused := ((new (.new registry policy)).run s
      [call, .advance (200 * Time.millisecond)]).2
    let after (seconds : Nat) :=
      ((refused.step s call).2.run s [.advance (seconds * Time.second)]).2
    (refused.step s call).1.told = .result (.error (.rateLimited 2)) ∧
      (∃ more, ((after 1).step s call).1.told = .result (.error (.rateLimited more))) ∧
      ∀ more, ((after 2).step s call).1.told ≠ .result (.error (.rateLimited more)) := by
  intro registry policy s call refused after
  have hattempt : refused.attempt? call = some ⟨⟨"me", "s", "echo"⟩, refused.now⟩ := by
    decide +kernel +revert
  have hverdict : (refused.gateway.limiter.spend (Subject.key ⟨"me", "s", "echo"⟩) s.limit
      s.window refused.now).1 = ⟨false, 0, 1300 * Time.millisecond⟩ := by
    decide +kernel +revert
  have hearly : (after 1).now ≤ refused.now + 1 * Time.second := by decide +kernel +revert
  have hreaches : ((after 1).attempt? call).isSome := by decide +kernel +revert
  have hlate : refused.now + 2 * Time.second ≤ (after 2).now := by decide +kernel +revert
  have hquiet : (refused.step s call).2.attempts s [.advance (2 * Time.second)] = [] := by
    decide +kernel +revert
  have hevent : call.IsCallOf "gateway:s:echo:me" :=
    ⟨_, ⟨"me", "s", "echo", [0x7b, 0x7d], by decide, by decide⟩, rfl, by decide +kernel, by decide⟩
  have htold : (refused.step s call).1.told = .result (.error (.rateLimited 2)) := by
    obtain ⟨seconds, htold⟩ := (told_of_attempt? (s := s) hattempt).1.mpr (by rw [hverdict])
    obtain ⟨subject, hsubject, -, hseconds⟩ := attempt?_of_told_rateLimited htold
    rw [hattempt] at hsubject
    cases hsubject
    rw [hverdict] at hseconds
    rw [htold, hseconds]
    rfl
  have hfresh : (new (.new registry policy)).gateway.limiter = [] := rfl
  obtain ⟨-, hexact⟩ :=
    retryAfter_exact hfresh (by decide) (by decide) (by decide) hevent htold
  refine ⟨htold, ?_, ?_⟩
  · exact (hexact [.advance (1 * Time.second)] call hevent).2 hearly hreaches
  · apply (hexact [.advance (2 * Time.second)] call hevent).1 hlate
    intro t ht
    rw [hquiet] at ht
    cases ht

end Session

end ToolGateway
