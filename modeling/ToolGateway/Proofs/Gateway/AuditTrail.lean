import ToolGateway.Proofs.Gateway.Ending

/-!
# The audit trail

The records of a run and the calls that end in it belong together one to one: a call with names has
its record at the event that ends it, and every record belongs to such a call. The record repeats
what the caller was told, so that one who reads the trail knows how each call went. What the sink
does with the records has no bearing on the run.
-/

namespace ToolGateway

/-- The names of a request are not blank. -/
def Request.HasNames (request : Request) : Prop :=
  Text.trim request.label ≠ "" ∧ Text.trim request.tool ≠ ""

/-- A request makes a call if and only if it has names. -/
theorem Request.exists_toCall_iff {request : Request} :
    (∃ call, request.toCall = .ok call) ↔ request.HasNames := by
  constructor
  · rintro ⟨call, hcall⟩
    obtain ⟨hlabel, htool, -⟩ := Request.toCall_eq_ok_iff.mp hcall
    exact ⟨hlabel, htool⟩
  · rintro ⟨hlabel, htool⟩
    exact ⟨⟨request.caller, _, _, request.body, hlabel, htool⟩,
      Request.toCall_eq_ok_iff.mpr ⟨hlabel, htool, rfl, rfl, rfl, rfl⟩⟩

/-- The code of the failures that an outcome stands for. Outcomes of answered calls have none. -/
def Outcome.failureCode? : Outcome → Option String
  | .success => none
  | .serverFailure => none
  | .deliveryFailure => some "UPSTREAM_ERROR"
  | .answerTooLarge => some "UPSTREAM_ERROR"
  | .invalidRequest => some "INTERNAL_ERROR"
  | .circuitOpen => some "CIRCUIT_OPEN"
  | .trustDenied => some "TRUST_DENIED"
  | .rateLimited => some "RATE_LIMITED"
  | .serverNotFound => some "NOT_FOUND"
  | .serverDisabled => some "INVALID_REQUEST"
  | .invalidBreaker => some "INTERNAL_ERROR"
  | .invalidBody => some "INVALID_REQUEST"
  | .policyFailure => some "INTERNAL_ERROR"
  | .credentialFailure => some "INTERNAL_ERROR"
  | .registryFailure => some "INTERNAL_ERROR"

/-- Why a call was rejected is recorded as an outcome of the failure that the caller is told. -/
theorem Rejection.failureCode?_outcome (r : Rejection) :
    r.outcome.failureCode? = some r.failure.code := by
  cases r with
  | credentialUnreadable cause => cases cause <;> rfl
  | delivery cause => cases cause <;> rfl
  | _ => rfl

/-- Failures of one code are of one kind. -/
theorem Failure.ctorIdx_eq_of_code_eq {f f' : Failure} (h : f.code = f'.code) :
    f.ctorIdx = f'.ctorIdx := by
  cases f <;> cases f' <;> first | rfl | simp [code] at h

namespace Audit

/-- The two names in a record: what stands before and behind the first slash of its resource. -/
def Entry.names (entry : Entry) : String × String :=
  (String.ofList (entry.resource.toList.takeWhile (· ≠ '/')),
    String.ofList (entry.resource.toList.dropWhile (· ≠ '/')).tail)

/-- A record tells of the call of a request and of what its caller was told. -/
structure Entry.Reports (entry : Entry) (request : Request) (result : Except Failure Output) :
    Prop where
  actor : entry.actor = request.caller
  action : entry.action = toolCallAction
  resource : entry.resource = Text.trim request.label ++ "/" ++ Text.trim request.tool
  answered : ∀ output, result = .ok output → entry.details =
    ⟨if 500 ≤ output.status then .serverFailure else .success, output.latency, some output.status⟩
  failed : ∀ failure, result = .error failure →
    entry.details.status = none ∧ entry.details.outcome.failureCode? = some failure.code

namespace Entry.Reports

variable {entry : Entry} {request : Request} {result : Except Failure Output}

/-- A label without slashes and the tool can be read off a record. -/
theorem names_eq (h : entry.Reports request result)
    (hlabel : '/' ∉ (Text.trim request.label).toList) :
    entry.names = (Text.trim request.label, Text.trim request.tool) := by
  have hbefore : ∀ c ∈ (Text.trim request.label).toList, decide (c ≠ '/') = true :=
    fun c hc => decide_eq_true fun heq => hlabel (heq ▸ hc)
  have hslash : "/".toList = ['/'] := rfl
  unfold names
  rw [h.resource, String.toList_append, String.toList_append, List.append_assoc, hslash,
    List.takeWhile_append_of_pos hbefore, List.dropWhile_append_of_pos hbefore]
  simp

/-- The outcome of a rejected call settles the kind of the failure that its caller is told. -/
theorem ctorIdx_eq {entry' : Entry} {request' : Request} {failure failure' : Failure}
    (h : entry.Reports request (.error failure)) (h' : entry'.Reports request' (.error failure'))
    (houtcome : entry.details.outcome = entry'.details.outcome) :
    failure.ctorIdx = failure'.ctorIdx := by
  have hcode := (h.failed failure rfl).2
  rw [houtcome, (h'.failed failure' rfl).2, Option.some.injEq] at hcode
  exact Failure.ctorIdx_eq_of_code_eq hcode.symm

end Entry.Reports

end Audit

namespace Gateway

variable {request : Request} {call : Call}

/-- The record of a rejected call tells of it. -/
theorem reports_rejectedEntry (hcall : request.toCall = .ok call) (r : Rejection)
    (reading : Reading) : (rejectedEntry call r reading).Reports request (.error r.failure) := by
  obtain ⟨-, -, hcaller, hlabel, htool, -⟩ := Request.toCall_eq_ok_iff.mp hcall
  refine ⟨hcaller, rfl, by rw [← hlabel, ← htool]; rfl, (fun _ h => nomatch h), ?_⟩
  rintro failure ⟨⟩
  exact ⟨rfl, r.failureCode?_outcome⟩

/-- The record of an answered call tells of it. -/
theorem reports_answeredEntry {s : Settings} {flight : InFlight}
    (hcall : request.toCall = .ok flight.call) (answer : Answer) (reading : Reading) :
    (answeredEntry flight.call answer reading).Reports request
      (.ok (outputOf s flight answer reading)) := by
  obtain ⟨-, -, hcaller, hlabel, htool, -⟩ := Request.toCall_eq_ok_iff.mp hcall
  refine ⟨hcaller, rfl, by rw [← hlabel, ← htool]; rfl, ?_, fun _ h => nomatch h⟩
  rintro output ⟨⟩
  rfl

/-- The record of a call that was replied to tells of it. -/
theorem reports_entryOf {s : Settings} {flight : InFlight}
    (hcall : request.toCall = .ok flight.call) (reply : Reply) (reading : Reading) :
    (entryOf flight reply reading).Reports request (resultOf s flight reply reading) := by
  cases reply with
  | ok answer => exact reports_answeredEntry hcall answer reading
  | error cause => exact reports_rejectedEntry hcall (.delivery cause) reading

end Gateway

namespace Session

variable {s : Gateway.Settings} {session : Session} {events : List Event} {i j : Nat}
  {request : Request}

/-- The audit records of the event at a position of a run. -/
def auditedAt (s : Gateway.Settings) (session : Session) (events : List Event) (j : Nat) :
    List Audit.Entry :=
  (session.run s events).1[j]?.elim [] Effects.audited

/-- The audit records of a run. -/
def trail (s : Gateway.Settings) (session : Session) (events : List Event) : List Audit.Entry :=
  (session.run s events).1.flatMap Effects.audited

/-! ## Calls and their records -/

/-- What is recorded of an event depends on the session reached before it. -/
theorem auditedAt_eq {event : Event} (h : events[j]? = some event) :
    session.auditedAt s events j = ((session.reach s events j).step s event).1.audited := by
  rw [auditedAt, getElem?_run_fst, h]
  rfl

/-- Where the run is over nothing is recorded. -/
theorem auditedAt_of_getElem?_eq_none (h : events[j]? = none) :
    session.auditedAt s events j = [] := by
  rw [auditedAt, getElem?_run_fst, h]
  rfl

/-- The call that left the gateway is that of the request. -/
theorem toCall_of_left? {flight : InFlight} (h : session.left? s request = some flight) :
    request.toCall = .ok flight.call := by
  obtain ⟨call, hcall, hstart⟩ := left?_eq_some_iff.mp h
  obtain ⟨-, -, -, -, rfl, -⟩ := Gateway.start_fst_eq_ok_iff.mp hstart
  exact hcall

/-- A call that is completed in a run in which at first no call waited was brought by one of its
events. -/
theorem exists_endsAt_of_completes {event : Event} {flight : InFlight} {reply : Reply}
    {result : Except Failure Output} (hbegin : ∀ id, session.pending.get? id = none)
    (hevent : events[j]? = some event)
    (hcompletes : (session.reach s events j).completes s event = some (flight, reply))
    (htold : ((session.reach s events j).step s event).1.told = .result result) :
    ∃ i request, session.EndsAt s events i j request result ∧ request.toCall = .ok flight.call := by
  cases event with
  | call request reply' reading =>
    obtain ⟨flight', hleft, heq⟩ := Option.map_eq_some_iff.mp hcompletes
    obtain ⟨rfl, -⟩ := Prod.mk.inj heq
    exact ⟨j, request, ⟨_, hevent, htold, Or.inl ⟨rfl, rfl⟩⟩, toCall_of_left? hleft⟩
  | finish id reply' reading =>
    obtain ⟨flight', hwaits, heq⟩ := Option.map_eq_some_iff.mp hcompletes
    obtain ⟨rfl, -⟩ := Prod.mk.inj heq
    obtain ⟨i, request, hwaitsTo, hleft⟩ := exists_waitsTo (hbegin id) hwaits
    exact ⟨i, request, ⟨_, hevent, htold, Or.inr ⟨id, reply', reading, rfl, hwaitsTo⟩⟩,
      toCall_of_left? hleft⟩
  | _ => cases hcompletes

/-- At a position of a run a call with names ends and has its record there, or a call without names
ends unrecorded, or no call ends and nothing is recorded. -/
theorem audit_cases (events : List Event) (hbegin : ∀ id, session.pending.get? id = none)
    (j : Nat) :
    (∃ i request result entry, session.EndsAt s events i j request result ∧ request.HasNames ∧
        session.auditedAt s events j = [entry] ∧ entry.Reports request result) ∨
      (∃ i request result, session.EndsAt s events i j request result ∧ ¬ request.HasNames ∧
        session.auditedAt s events j = []) ∨
      (∀ i request result, ¬ session.EndsAt s events i j request result) ∧
        session.auditedAt s events j = [] := by
  cases hevent : events[j]? with
  | none =>
    refine Or.inr (Or.inr ⟨?_, auditedAt_of_getElem?_eq_none hevent⟩)
    rintro i request result ⟨event, hsome, -⟩
    rw [hevent] at hsome
    cases hsome
  | some event =>
    rw [auditedAt_eq hevent]
    rcases report_cases (s := s) (session.reach s events j) event with
      ⟨request, failure, hrequest, hcall, h⟩ | ⟨request, call, r, reading, hrequest, hcall, -, h⟩ |
      ⟨flight, reply, reading, hcompletes, haudited, htold⟩ | ⟨-, haudited, htold⟩
    · refine Or.inr (Or.inl ⟨j, request, .error failure, ⟨event, hevent, by rw [h], ?_⟩, ?_,
        by rw [h]⟩)
      · exact Or.inl ⟨rfl, hrequest⟩
      · intro hnames
        obtain ⟨call, hok⟩ := Request.exists_toCall_iff.mpr hnames
        rw [hcall] at hok
        cases hok
    · refine Or.inl ⟨j, request, .error r.failure, _, ⟨event, hevent, by rw [h]; rfl, ?_⟩, ?_,
        by rw [h]; rfl, Gateway.reports_rejectedEntry hcall r reading⟩
      · exact Or.inl ⟨rfl, hrequest⟩
      · exact Request.exists_toCall_iff.mp ⟨call, hcall⟩
    · obtain ⟨i, request, hends, hcall⟩ := exists_endsAt_of_completes hbegin hevent hcompletes htold
      exact Or.inl ⟨i, request, _, _, hends, Request.exists_toCall_iff.mp ⟨_, hcall⟩, haudited,
        Gateway.reports_entryOf hcall reply reading⟩
    · refine Or.inr (Or.inr ⟨?_, haudited⟩)
      rintro i request result ⟨event', hsome, htold', -⟩
      rw [hevent, Option.some.injEq] at hsome
      exact htold result (hsome ▸ htold')

/-! ## The sink -/

/-- Where there is no sink, records go nowhere. -/
theorem forM_dispatch_none {m : Type → Type} [Monad m] [LawfulMonad m] (report : String → m Unit)
    (entries : List Audit.Entry) : entries.forM (Audit.dispatch none report) = pure () := by
  induction entries with
  | nil => rfl
  | cons entry entries ih => exact (pure_bind () _).trans ih

/-- Whatever becomes of the records, a sink is handed the trail, and the run is the same. -/
theorem runRecording_eq {m : Type → Type} [Monad m] [LawfulMonad m]
    (write : Option (Audit.Entry → m (Option FileError))) (report : String → m Unit)
    (s : Gateway.Settings) (session : Session) (events : List Event) :
    session.runRecording write report s events =
      (session.trail s events).forM (Audit.dispatch write report) >>= fun _ =>
        pure (session.run s events) := by
  induction events generalizing session with
  | nil => simp [runRecording, trail, run]
  | cons event events ih =>
    simp [runRecording, ih, trail, run, List.forM_append]

/-- The trail consists of the records of the events, one event after the other. -/
theorem trail_eq (session : Session) (events : List Event) :
    session.trail s events =
      (List.range events.length).flatMap fun j => session.auditedAt s events j := by
  unfold trail auditedAt
  rw [← length_run_fst (s := s) session events]
  generalize (session.run s events).1 = effects
  induction effects with
  | nil => rfl
  | cons first effects ih =>
    rw [List.length_cons, List.range_succ_eq_map, List.flatMap_cons, List.flatMap_cons,
      List.flatMap_map, ih]
    rfl

/-! ## The trail of a gateway -/

/-- The records of a run and the calls with names that ended in it belong together one to one, and
each record tells the truth about its call: who called what, whether the caller got an answer or
which kind of failure, and of an answer the status and the latency. A call without names and a call
whose caller went away have no record. A sink is handed these records; whether it keeps them, fails
or is not there, the run is the same. -/
theorem audited_iff_ended (s : Gateway.Settings) (g : Gateway) (events : List Event) :
    let begun := Session.new g
    (∀ i j request result, begun.EndsAt s events i j request result →
      (request.HasNames →
        ∃ entry, begun.auditedAt s events j = [entry] ∧ entry.Reports request result) ∧
      (¬ request.HasNames → begun.auditedAt s events j = [])) ∧
    (∀ j entry, entry ∈ begun.auditedAt s events j → ∃ i request result,
      begun.EndsAt s events i j request result ∧ request.HasNames ∧
        entry.Reports request result) ∧
    (∀ i j k request request' result result',
      begun.EndsAt s events i j request result → begun.EndsAt s events i k request' result' →
        j = k) ∧
    (∀ i j k request request' result result',
      begun.EndsAt s events i j request result → begun.EndsAt s events k j request' result' →
        i = k ∧ request = request' ∧ result = result') ∧
    (∀ i j k id request request' result, begun.WaitsTo s events i k id request →
      events[k]? = some (.drop id) → ¬ begun.EndsAt s events i j request' result) ∧
    (∀ (entry : Audit.Entry) request result, entry.Reports request result →
      '/' ∉ (Text.trim request.label).toList →
        entry.names = (Text.trim request.label, Text.trim request.tool)) ∧
    (∀ (entry entry' : Audit.Entry) request request' failure failure',
      entry.Reports request (.error failure) → entry'.Reports request' (.error failure') →
        entry.details.outcome = entry'.details.outcome → failure.ctorIdx = failure'.ctorIdx) ∧
    begun.trail s events =
      (List.range events.length).flatMap (fun j => begun.auditedAt s events j) ∧
    ∀ (m : Type → Type) [Monad m] [LawfulMonad m] (write : Audit.Entry → m (Option FileError))
        (report : String → m Unit),
      begun.runRecording (some write) report s events =
          ((begun.trail s events).forM (Audit.dispatch (some write) report) >>= fun _ =>
            pure (begun.run s events)) ∧
        begun.runRecording none report s events = pure (begun.run s events) := by
  intro begun
  have hbegin : ∀ id, begun.pending.get? id = none := fun _ => rfl
  have hcases := audit_cases (s := s) events hbegin
  refine ⟨fun i j request result hends => ?_, fun j entry hentry => ?_,
    fun i j k _ _ _ _ => EndsAt.end_unique, fun i j k _ _ _ _ => EndsAt.call_unique,
    fun i j k id request request' result hwaits hdrop => hwaits.not_endsAt hdrop request' result,
    fun _ _ _ => Audit.Entry.Reports.names_eq,
    fun _ _ _ _ _ _ => Audit.Entry.Reports.ctorIdx_eq, trail_eq begun events,
    fun m _ _ write report => ⟨runRecording_eq _ report s begun events, ?_⟩⟩
  · rcases hcases j with ⟨i', request', result', entry, hends', hnames, haudited, hreports⟩ |
      ⟨i', request', result', hends', hnames, haudited⟩ | ⟨hnone, -⟩
    · obtain ⟨rfl, rfl, rfl⟩ := hends.call_unique hends'
      exact ⟨fun _ => ⟨entry, haudited, hreports⟩, fun hblank => absurd hnames hblank⟩
    · obtain ⟨rfl, rfl, rfl⟩ := hends.call_unique hends'
      exact ⟨fun h => absurd h hnames, fun _ => haudited⟩
    · exact absurd hends (hnone i request result)
  · rcases hcases j with ⟨i, request, result, entry', hends, hnames, haudited, hreports⟩ |
      ⟨i, request, result, hends, hnames, haudited⟩ | ⟨-, haudited⟩
    · rw [haudited, List.mem_singleton] at hentry
      exact ⟨i, request, result, hends, hnames, hentry ▸ hreports⟩
    · rw [haudited] at hentry
      cases hentry
    · rw [haudited] at hentry
      cases hentry
  · rw [runRecording_eq, forM_dispatch_none, pure_bind]

/-- Two calls wait; the caller of the first goes away and the second is answered with 503. The run
has one record. -/
theorem audited_iff_ended_of_drop :
    let s : Gateway.Settings := ⟨60, 60 * Time.second, none⟩
    let request (caller : String) : Request := ⟨caller, " s ", "echo", [0x7b, 0x7d]⟩
    let begun := Session.new (Gateway.new [] .empty)
    let events : List Event := [.addDefault ⟨"*", .auto, 0⟩,
      .register ⟨"s", "http://127.0.0.1:9100", .none, none, true, none⟩,
      .start "first" (request "ann") ⟨0, 0⟩, .start "second" (request "bob") ⟨0, 0⟩,
      .drop "first", .finish "second" (fun _ => .ok ⟨503, .null⟩) ⟨7, 1000⟩]
    (∀ j request' result, ¬ begun.EndsAt s events 2 j request' result) ∧
      ∃ result entry, begun.EndsAt s events 3 5 (request "bob") result ∧
        begun.trail s events = [entry] ∧ entry.Reports (request "bob") result ∧
        entry.details = ⟨.serverFailure, 7, some 503⟩ ∧ entry.names = ("s", "echo") := by
  intro s request begun events
  let record : Audit.Entry := .toolCall "bob" "s" "echo" ⟨.serverFailure, 7, some 503⟩ 1000
  have hlabel : Text.trim (request "bob").label ≠ "" := by decide +kernel +revert
  have htool : Text.trim (request "bob").tool ≠ "" := by decide +kernel +revert
  have hleft : ((begun.reach s events 2).left? s (request "ann")).isSome := by
    decide +kernel +revert
  have hleft' : ((begun.reach s events 3).left? s (request "bob")).isSome := by
    decide +kernel +revert
  have htrail : begun.trail s events = [record] := by decide +kernel +revert
  have hrecord : begun.auditedAt s events 5 = [record] := by decide +kernel +revert
  have hdrop : events[4]? = some (.drop "first") := rfl
  have hfirst : begun.WaitsTo s events 2 4 "first" (request "ann") := by
    refine ⟨by omega, ⟨⟨0, 0⟩, rfl, told_start_eq_waiting_iff.mpr ?_⟩,
      fun k next hk hk' hnext => ?_⟩
    · exact Option.isSome_iff_exists.mp hleft
    · obtain rfl : k = 3 := by omega
      obtain rfl : Event.start "second" (request "bob") ⟨0, 0⟩ = next := Option.some.inj hnext
      rfl
  have hsecond : begun.WaitsTo s events 3 5 "second" (request "bob") := by
    refine ⟨by omega, ⟨⟨0, 0⟩, rfl, told_start_eq_waiting_iff.mpr ?_⟩,
      fun k next hk hk' hnext => ?_⟩
    · exact Option.isSome_iff_exists.mp hleft'
    · obtain rfl : k = 4 := by omega
      obtain rfl : Event.drop "first" = next := Option.some.inj hnext
      rfl
  obtain ⟨result, hends⟩ := hsecond.exists_endsAt rfl
  clear_value s events
  obtain ⟨hended, -, -, -, hdropped, -⟩ := audited_iff_ended s (Gateway.new [] .empty) events
  obtain ⟨entry, haudited, hreports⟩ := (hended 3 5 _ result hends).1 ⟨hlabel, htool⟩
  obtain rfl : record = entry := List.head_eq_of_cons_eq (hrecord.symm.trans haudited)
  exact ⟨fun j request' result => hdropped 2 j 4 "first" _ request' result hfirst hdrop,
    result, record, hends, htrail, hreports, rfl, by decide +kernel⟩

end Session

end ToolGateway
