import ToolGateway.Proofs.Breaker.Trial
import ToolGateway.Proofs.Gateway.BreakerLog
import ToolGateway.Proofs.Gateway.Completion

/-!
# What a breaker counts

The breaker of a label learns how its tool server is from the replies to its calls, in the order in
which they come: a status from 500 on, a broken connection and a missing answer are failures, and a
lower status is a success. Nothing else that happens to a session is told to it: a rejected call, a
request that cannot be built, an answer too large to read, a call that is given up, and whatever
calls of other labels do.
-/

namespace ToolGateway

/-- Whether a reply tells that the tool server is not well. -/
def Reply.isFailure : Reply → Bool
  | .ok answer => 500 ≤ answer.status
  | .error (.transport _) => true
  | .error .timeout => true
  | .error (.invalidRequest _) => false
  | .error (.tooLarge _) => false

/-- Whether a reply tells that the tool server is well. -/
def Reply.isSuccess : Reply → Bool
  | .ok answer => answer.status < 500
  | .error _ => false

/-- The failures behind the last success in a list of replies, the first one first. -/
def Reply.failuresInRow (replies : List Reply) : Nat :=
  (replies.reverse.takeWhile fun reply => !isSuccess reply).countP isFailure

/-- The replies to calls of one label. -/
def repliesTo (label : String) (completed : List (InFlight × Reply)) : List Reply :=
  (completed.filter (·.1.call.label = label)).map Prod.snd

/-- What a reply does to a count of failures. -/
def Reply.countAfter (n : Nat) (reply : Reply) : Nat :=
  if isSuccess reply then 0 else if isFailure reply then Breaker.countUp n else n

/-- A success forgets the failures before it, and a failure is one more. -/
theorem Reply.failuresInRow_concat (replies : List Reply) (reply : Reply) :
    failuresInRow (replies ++ [reply]) =
      if isSuccess reply then 0
      else failuresInRow replies + if isFailure reply then 1 else 0 := by
  cases hs : isSuccess reply with
  | true => simp [failuresInRow, hs]
  | false =>
    cases hf : isFailure reply <;> simp [failuresInRow, hs, hf]

/-- A count that goes from reply to reply is the number of failures in a row, as far as failures are
counted. -/
theorem Reply.foldl_countAfter (replies : List Reply) :
    replies.foldl countAfter 0 = min (failuresInRow replies) Breaker.maxFailures := by
  induction replies using List.reverseRecOn with
  | nil => rfl
  | append_singleton replies reply ih =>
    rw [List.foldl_append, ih, List.foldl_cons, List.foldl_nil, failuresInRow_concat, countAfter]
    cases isSuccess reply with
    | true => rfl
    | false =>
      cases isFailure reply with
      | true => exact Breaker.countUp_min _
      | false => rfl

/-! ## Uses that report nothing -/

namespace Breaker

variable {b : Breaker} {uses : List Event}

/-- A use that is no report leaves the count and the opening time alone. -/
theorem take_of_quiet {e : Event} (h : e.use.isReport = false) :
    (b.take e).failures = b.failures ∧ (b.take e).openedAt = b.openedAt := by
  obtain ⟨time, use⟩ := e
  cases use with
  | attempt s => exact ⟨failures_attempt _ _ _, openedAt_attempt _ _ _⟩
  | release => exact ⟨failures_release b, openedAt_release b⟩
  | success => contradiction
  | failure s => contradiction

/-- So do several of them. -/
theorem foldl_take_of_quiet (h : ∀ e ∈ uses, e.use.isReport = false) :
    (uses.foldl take b).failures = b.failures ∧ (uses.foldl take b).openedAt = b.openedAt := by
  induction uses generalizing b with
  | nil => exact ⟨rfl, rfl⟩
  | cons e uses ih =>
    obtain ⟨hfailures, hopened⟩ := take_of_quiet (b := b) (h e List.mem_cons_self)
    obtain ⟨hfailures', hopened'⟩ := @ih (b.take e) fun e' he' => h e' (List.mem_cons_of_mem _ he')
    exact ⟨hfailures'.trans hfailures, hopened'.trans hopened⟩

end Breaker

namespace Gateway

/-- A call that begins reports nothing. -/
theorem isReport_of_mem_startUses {g : Gateway} {s : Settings} {now : Nat} {call : Call}
    {e : Breaker.Event} (h : e ∈ g.startUses s now call) : e.use.isReport = false := by
  unfold startUses at h
  cases hresolve : g.resolve call.label with
  | error r => simp [hresolve] at h
  | ok found =>
    rw [hresolve] at h
    rcases List.mem_cons.mp h with rfl | h
    · rfl
    · split at h
      · split at h
        · simp at h
        · rw [List.mem_singleton.mp h]
          rfl
      · simp at h

/-- A reply is counted, and unless it says how the tool server is, count and opening time stay. -/
theorem foldl_take_finishUses (b : Breaker) (now : Nat) (flight : InFlight) (reply : Reply) :
    let after := (finishUses now flight reply).foldl Breaker.take b
    after.failures = Reply.countAfter b.failures reply ∧
      ((Reply.isFailure reply = true ∨ Reply.isSuccess reply = true) ∨
        after.failures = b.failures ∧ after.openedAt = b.openedAt) := by
  have hfails (h : finishUses now flight reply = [⟨now, .failure flight.breaker⟩]) :
      ((finishUses now flight reply).foldl Breaker.take b).failures =
        Breaker.countUp b.failures := by
    rw [h]
    exact Breaker.failures_fail b _ _
  have hquiet (h : ∀ e ∈ finishUses now flight reply, e.use.isReport = false) :=
    Breaker.foldl_take_of_quiet (b := b) h
  cases reply with
  | ok answer =>
    by_cases h : 500 ≤ answer.status
    · have hcount := hfails (by simp [finishUses, h])
      have hhigh : ¬ answer.status < 500 := Nat.not_lt.mpr h
      exact ⟨by simpa [Reply.countAfter, Reply.isFailure, Reply.isSuccess, h, hhigh] using hcount,
        Or.inl (Or.inl (by simpa [Reply.isFailure] using h))⟩
    · have hlow : answer.status < 500 := Nat.lt_of_not_le h
      refine ⟨?_, Or.inl (Or.inr (by simpa [Reply.isSuccess] using hlow))⟩
      simp [finishUses, h, Breaker.take, Breaker.succeed, Breaker.fresh, Breaker.failures,
        Reply.countAfter, Reply.isSuccess, hlow]
  | error cause =>
    cases hevidence : cause.isEvidence with
    | true =>
      have hcount := hfails (by simp [finishUses, hevidence])
      have hfailure : Reply.isFailure (.error cause) = true := by cases cause <;> trivial
      exact ⟨by simpa [Reply.countAfter, Reply.isSuccess, hfailure] using hcount,
        Or.inl (Or.inl hfailure)⟩
    | false =>
      have hfailure : Reply.isFailure (.error cause) = false := by cases cause <;> trivial
      obtain ⟨hfailures, hopened⟩ := hquiet (by
        cases hadmission : flight.admission <;>
          simp [finishUses, hevidence, hadmission, Breaker.Use.isReport])
      exact ⟨by simpa [Reply.countAfter, Reply.isSuccess, hfailure] using hfailures,
        Or.inr ⟨hfailures, hopened⟩⟩

end Gateway

namespace Session

variable {s : Gateway.Settings}

/-- A call that begins uses the breaker of its label in ways that report nothing, and then, once it
left the gateway, as it goes on. -/
theorem usesOf_beginUses (session : Session) (label : String) (request : Request)
    (goOn : InFlight → List Breaker.Event) :
    ∃ asked, (∀ e ∈ asked, e.use.isReport = false) ∧
      Breakers.usesOf label (session.beginUses s request goOn) =
        asked ++ (session.left? s request).elim [] fun flight =>
          if flight.call.label = label then goOn flight else [] := by
  unfold beginUses left?
  cases request.toCall with
  | error failure => exact ⟨[], by simp, rfl⟩
  | ok call =>
    dsimp only
    rw [Gateway.usesOf_labelled]
    by_cases hlabel : call.label = label
    · refine ⟨session.gateway.startUses s session.now call,
        fun e he => Gateway.isReport_of_mem_startUses he, ?_⟩
      rw [if_pos hlabel]
      cases hstart : (session.gateway.start s session.now call).1 with
      | error r => rfl
      | ok flight =>
        obtain ⟨-, -, -, -, rfl, -⟩ := Gateway.start_fst_eq_ok_iff.mp hstart
        simp [Except.toOption, hlabel]
    · refine ⟨[], by simp, ?_⟩
      rw [if_neg hlabel]
      cases hstart : (session.gateway.start s session.now call).1 with
      | error r => rfl
      | ok flight =>
        obtain ⟨-, -, -, -, rfl, -⟩ := Gateway.start_fst_eq_ok_iff.mp hstart
        simp [Except.toOption, hlabel]

/-- An event uses the breaker of a label in ways that report nothing, and then as the reply does
that completes a call of the label, if one does. -/
theorem usesOf_uses (session : Session) (label : String) (event : Event) :
    ∃ asked, (∀ e ∈ asked, e.use.isReport = false) ∧
      Breakers.usesOf label (session.uses s event) =
        asked ++ (session.completes s event).elim [] fun done =>
          if done.1.call.label = label then Gateway.finishUses session.now done.1 done.2 else [] := by
  cases event with
  | call request reply reading =>
    obtain ⟨asked, hquiet, huses⟩ := usesOf_beginUses (s := s) session label request fun flight =>
      Gateway.finishUses session.now flight (reply flight.request)
    refine ⟨asked, hquiet, ?_⟩
    rw [uses, huses, completes, Option.elim_map]
    rfl
  | start id request reading =>
    obtain ⟨asked, hquiet, huses⟩ := usesOf_beginUses (s := s) session label request fun _ => []
    refine ⟨asked, hquiet, ?_⟩
    rw [uses, huses]
    cases session.left? s request <;> simp [completes]
  | finish id reply reading =>
    refine ⟨[], by simp, ?_⟩
    rw [uses, completes]
    cases session.pending.get? id with
    | none => rfl
    | some flight => exact Gateway.usesOf_labelled _ _ _
  | _ => exact ⟨[], by simp, rfl⟩

/-- The breaker of a label after an event: a reply to a call of the label is counted, and unless one
says how the tool server is, count and opening time stay. -/
theorem breaker_step (session : Session) (label : String) (event : Event) :
    let before := session.gateway.breakers.of label
    let after := (session.step s event).2.gateway.breakers.of label
    after.failures = (repliesTo label (session.completes s event).toList).foldl Reply.countAfter
        before.failures ∧
      ((∃ flight reply, session.completes s event = some (flight, reply) ∧
          flight.call.label = label ∧
          (Reply.isFailure reply = true ∨ Reply.isSuccess reply = true)) ∨
        after.failures = before.failures ∧ after.openedAt = before.openedAt) := by
  intro before after
  obtain ⟨asked, hquiet, huses⟩ := usesOf_uses (s := s) session label event
  obtain ⟨hfailures, hopened⟩ := Breaker.foldl_take_of_quiet (b := before) hquiet
  have hafter : after =
      (Breakers.usesOf label (session.uses s event)).foldl Breaker.take before := by
    simp only [after, before, breakers_step, Breakers.of_takeAll]
  rw [hafter, huses, List.foldl_append]
  cases session.completes s event with
  | none => exact ⟨hfailures, Or.inr ⟨hfailures, hopened⟩⟩
  | some done =>
    obtain ⟨flight, reply⟩ := done
    rw [Option.elim_some]
    by_cases hlabel : flight.call.label = label
    · obtain ⟨hcounted, hsays⟩ := Gateway.foldl_take_finishUses
        (asked.foldl Breaker.take before) session.now flight reply
      rw [hfailures] at hcounted hsays
      rw [hopened] at hsays
      rw [if_pos hlabel]
      refine ⟨by simpa [repliesTo, hlabel] using hcounted, ?_⟩
      exact hsays.imp_left fun h => ⟨flight, reply, rfl, hlabel, h⟩
    · rw [if_neg hlabel]
      exact ⟨by simpa [repliesTo, hlabel] using hfailures, Or.inr ⟨hfailures, hopened⟩⟩

/-- The count of a label goes from reply to reply in a run. -/
theorem failures_run (session : Session) (label : String) (events : List Event) :
    ((session.run s events).2.gateway.breakers.of label).failures =
      (repliesTo label (session.completions s events)).foldl Reply.countAfter
        (session.gateway.breakers.of label).failures := by
  induction events generalizing session with
  | nil => rfl
  | cons event events ih =>
    obtain ⟨hstep, -⟩ := breaker_step (s := s) session label event
    rw [run_cons_snd, ih, hstep, completions, repliesTo, repliesTo, repliesTo, List.filter_append,
      List.map_append, List.foldl_append]

/-- In every run of a gateway that has seen no call, the breaker of a label begins closed and counts
the failures among the replies to calls of the label since the last success, as far as failures are
counted. An event that completes no call of the label with a failure or a success leaves the count,
the position and the opening time as they are. -/
theorem breaker_counts_replies (s : Gateway.Settings) (registry : Registry) (policy : Trust.Policy)
    (events : List Event) (label : String) :
    let begun := Session.new (Gateway.new registry policy)
    let later := (begun.run s events).2
    begun.gateway.breakers.of label = .closed 0 ∧
      (later.gateway.breakers.of label).failures =
        min (Reply.failuresInRow (repliesTo label (begun.completions s events)))
          (UInt32.size - 1) ∧
      ∀ event, (∃ flight reply, later.completes s event = some (flight, reply) ∧
          flight.call.label = label ∧
          (Reply.isFailure reply = true ∨ Reply.isSuccess reply = true)) ∨
        let before := later.gateway.breakers.of label
        let after := (later.step s event).2.gateway.breakers.of label
        after.failures = before.failures ∧ after.isOpen = before.isOpen ∧
          after.openedAt = before.openedAt := by
  intro begun later
  refine ⟨rfl, ?_, ?_⟩
  · exact (failures_run begun label events).trans (Reply.foldl_countAfter _)
  · intro event
    refine (breaker_step (s := s) later label event).2.imp_right ?_
    rintro ⟨hfailures, hopened⟩
    exact ⟨hfailures, congrArg Option.isSome hopened, hopened⟩

/-- A failure is counted and a success forgets it. Behind one more failure, an answer that is too
large to read changes nothing. -/
example :
    let s : Gateway.Settings := ⟨60, 60 * Time.second, none⟩
    let call (reply : Reply) : Event :=
      .call ⟨"me", "s", "echo", [0x7b, 0x7d]⟩ (fun _ => reply) ⟨0, 0⟩
    let events : List Event := [.addDefault ⟨"*", .auto, 0⟩,
      .register ⟨"s", "http://127.0.0.1:9100", .none, none, true, none⟩, call (.ok ⟨503, .null⟩),
      call (.ok ⟨200, .null⟩), call (.error .timeout), call (.error (.tooLarge 1024))]
    let failures (n : Nat) : Nat :=
      (((Session.new (Gateway.new [] .empty)).run s (events.take n)).2.gateway.breakers.of
        "s").failures
    (failures 3, failures 4, failures 5, failures 6) = (1, 0, 1, 1) := by
  decide +kernel

end Session

end ToolGateway
