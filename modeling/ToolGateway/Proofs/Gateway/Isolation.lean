import ToolGateway.Proofs.Config.Entries
import ToolGateway.Proofs.Gateway.LimiterLog
import ToolGateway.Proofs.Gateway.Report
import ToolGateway.Server

/-!
# Limits of their own

A valid configuration gives callers and tool servers names without colons, so the subjects of the
calls that reach the limiter have keys of their own, whatever their tools are called. Hence the
limiter of a gateway judges the calls of each subject as if there were no others, on the grid that
the first one laid down, and a place that a call has taken stays taken whatever becomes of the call.
-/

namespace ToolGateway

/-- The ids that calls may carry under a configuration: those of its callers, and the one that all
local peers share. -/
def Config.Knows (c : Config) (id : String) : Prop :=
  id = Callers.loopbackId ∨ id ∈ c.listener.callers.callers.map Caller.id

/-- Whoever is let in carries an id that the configuration knows. -/
theorem Config.knows_of_authenticate {c : Config} {peer : Option IpAddress}
    {header : Option String} {identity : Identity}
    (h : c.listener.callers.authenticate peer header = .ok identity) : c.Knows identity.id := by
  unfold Callers.authenticate at h
  split at h
  · split at h <;> cases h
    exact Or.inl rfl
  · split at h
    · cases h
    · split at h <;> cases h
      rename_i caller hfound
      exact Or.inr (List.mem_map_of_mem (List.mem_of_find?_eq_some hfound))

/-- The names in an event are such as the configuration gives: callers are known, and a record that
is added has a label that passes the checks of the configuration. -/
def Event.ComesFrom (c : Config) : Event → Prop
  | .call request _ _ => c.Knows request.caller
  | .start _ request _ => c.Knows request.caller
  | .register server => Config.labelFaults server.label = []
  | _ => True

instance (c : Config) (id : String) : Decidable (c.Knows id) :=
  inferInstanceAs (Decidable (_ ∨ _))

instance (c : Config) : (event : Event) → Decidable (event.ComesFrom c)
  | .call request _ _ => inferInstanceAs (Decidable (c.Knows request.caller))
  | .start _ request _ => inferInstanceAs (Decidable (c.Knows request.caller))
  | .register server => inferInstanceAs (Decidable (Config.labelFaults server.label = []))
  | .finish _ _ _ | .drop _ | .advance _ | .addOverride _ | .addRule _ _ | .addDefault _
  | .outage _ _ => .isTrue trivial

namespace Limiter

variable {subject : Subject} {attempts : List (Attempt Subject)}

/-- The limiter tells a subject's attempts from those of all others by its key. -/
theorem timesOf_keyed (hsubject : subject.Separable)
    (hattempts : ∀ attempt ∈ attempts, attempt.key.Separable) :
    timesOf subject.key (attempts.map Attempt.keyed) = timesOf subject attempts := by
  induction attempts with
  | nil => rfl
  | cons attempt attempts ih =>
    have hrest := ih fun other hother => hattempts other (List.mem_cons_of_mem _ hother)
    have hkey : attempt.keyed.key = subject.key ↔ attempt.key = subject :=
      ⟨Subject.key_injective (hattempts attempt List.mem_cons_self) hsubject,
        congrArg Subject.key⟩
    rw [List.map_cons, ← List.singleton_append, timesOf_append, timesOf_singleton, hrest,
      ← List.singleton_append (l := attempts), timesOf_append, timesOf_singleton]
    simp only [hkey]
    rfl

end Limiter

/-! ## Names without colons -/

namespace Registry

/-- No label of a record has a colon. -/
def Separable (registry : Registry) : Prop :=
  ∀ label server, registry.get? label = some server → ':' ∉ label.toList

/-- One record more keeps labels so. -/
theorem Separable.register {registry : Registry} (h : registry.Separable) {server : ToolServer}
    (hserver : ':' ∉ server.label.toList) : (registry.register server).Separable := by
  intro label found hfound
  rw [Registry.register, Table.get?_insert] at hfound
  split at hfound
  · rename_i hlabel
    exact hlabel ▸ hserver
  · exact h label found hfound

/-- So do several of them. -/
theorem Separable.registerAll {registry : Registry} (h : registry.Separable)
    {servers : List ToolServer} (hservers : ∀ server ∈ servers, ':' ∉ server.label.toList) :
    (servers.foldl Registry.register registry).Separable := by
  induction servers generalizing registry with
  | nil => exact h
  | cons server servers ih =>
    have hfirst := h.register (hservers server List.mem_cons_self)
    exact ih hfirst fun other hother => hservers other (List.mem_cons_of_mem _ hother)

end Registry

/-- The labels of a valid configuration have no colons. -/
theorem Config.separable_registry {c : Config} (hvalid : c.IsValid) : c.registry.Separable := by
  have hempty : Registry.Separable [] := fun label server hfound => by cases hfound
  refine hempty.registerAll ?_
  intro server hserver
  obtain ⟨written, hwritten, rfl⟩ := List.mem_map.mp hserver
  have hfaults := hvalid.serverFaults_eq_nil hwritten
  exact colon_notMem_of_labelFaults (List.append_eq_nil_iff.mp hfaults).1

/-- Nor have the ids of callers that it knows. -/
theorem Config.Knows.colon_notMem {c : Config} (hvalid : c.IsValid) {id : String} (h : c.Knows id) :
    ':' ∉ id.toList := by
  rcases h with rfl | hid
  · decide
  · obtain ⟨caller, hcaller, rfl⟩ := List.mem_map.mp hid
    exact colon_notMem_of_callerFaults (hvalid.callerFaults_eq_nil hcaller)

namespace Session

open Limiter

variable {c : Config} {s : Gateway.Settings} {session : Session}

/-- An event keeps labels without colons if its names come from a configuration. -/
theorem separable_step (h : session.gateway.registry.Separable) {event : Event}
    (hevent : event.ComesFrom c) : (session.step s event).2.gateway.registry.Separable := by
  rw [registry_step]
  cases event with
  | register server => exact h.register (Config.colon_notMem_of_labelFaults hevent)
  | _ => exact h

/-- So does a run. -/
theorem separable_run (h : session.gateway.registry.Separable) {events : List Event}
    (hevents : ∀ event ∈ events, event.ComesFrom c) :
    (session.run s events).2.gateway.registry.Separable := by
  induction events generalizing session with
  | nil => exact h
  | cons event events ih =>
    have hstep := separable_step (s := s) h (hevents event List.mem_cons_self)
    exact ih hstep fun e he => hevents e (List.mem_cons_of_mem _ he)

/-- A call that reaches the limiter has a label of the registry. -/
theorem separable_of_attempt? (hvalid : c.IsValid) (h : session.gateway.registry.Separable)
    {event : Event} (hevent : event.ComesFrom c) {attempt : Attempt Subject}
    (hattempt : session.attempt? event = some attempt) : attempt.key.Separable := by
  obtain ⟨request, call, hrequest, hcall, hreaches, rfl⟩ := attempt?_eq_some_iff.mp hattempt
  obtain ⟨-, -, hcaller, -, -, -⟩ := Request.toCall_eq_ok_iff.mp hcall
  have hknown : c.Knows request.caller := by
    cases event <;> cases hrequest <;> exact hevent
  unfold Gateway.reachesLimiter at hreaches
  cases hresolve : session.gateway.resolve call.label with
  | error r => simp [hresolve] at hreaches
  | ok found =>
    obtain ⟨-, hfound, -, -⟩ := Gateway.resolve_eq_ok_iff.mp hresolve
    exact ⟨h _ _ hfound, by rw [Call.subject, hcaller]; exact hknown.colon_notMem hvalid⟩

/-- All attempts of a run have separable subjects. -/
theorem separable_attempts (hvalid : c.IsValid) (h : session.gateway.registry.Separable)
    {events : List Event} (hevents : ∀ event ∈ events, event.ComesFrom c) :
    ∀ attempt ∈ session.attempts s events, attempt.key.Separable := by
  induction events generalizing session with
  | nil => exact fun attempt hattempt => nomatch hattempt
  | cons event events ih =>
    have hevent := hevents event List.mem_cons_self
    have hrest := ih (separable_step (s := s) h hevent) fun e he =>
      hevents e (List.mem_cons_of_mem _ he)
    intro attempt hattempt
    rcases List.mem_append.mp hattempt with hfirst | hlater
    · exact separable_of_attempt? hvalid h hevent (Option.mem_toList.mp hfirst)
    · exact hrest attempt hlater

/-! ## One subject -/

section

variable {events : List Event} {event : Event} {subject : Subject}

/-- The window of a subject is the one of its own last attempt. -/
theorem get?_limiter_run (hvalid : c.IsValid) (hwindow : s.window = c.rate.windowLength)
    (hfresh : session.gateway.limiter = []) (hregistry : session.gateway.registry.Separable)
    (hevents : ∀ event ∈ events, event.ComesFrom c) (hsubject : subject.Separable) :
    (session.run s events).2.gateway.limiter.get? subject.key =
      gridWindow s.limit s.window (timesOf subject (session.attempts s events)) := by
  obtain ⟨hpositive, hbound⟩ := hvalid.window_bounds
  rw [← hwindow] at hpositive hbound
  rw [← timesOf_keyed hsubject (separable_attempts hvalid hregistry hevents)]
  exact onGrid_run hpositive hbound hfresh events subject.key

/-- An attempt is judged by those of its own subject. -/
theorem judged_of_attempt? (hvalid : c.IsValid) (hwindow : s.window = c.rate.windowLength)
    (hfresh : session.gateway.limiter = []) (hregistry : session.gateway.registry.Separable)
    (hevents : ∀ event ∈ events, event.ComesFrom c) (hevent : event.ComesFrom c) {now : Nat}
    (hattempt : (session.run s events).2.attempt? event = some ⟨subject, now⟩) :
    Judged s.limit s.window (timesOf subject (session.attempts s events)) now
      ((session.run s events).2.gateway.limiter.spend subject.key s.limit s.window now).1 := by
  obtain ⟨hpositive, hbound⟩ := hvalid.window_bounds
  rw [← hwindow] at hpositive hbound
  have hsubject : subject.Separable :=
    separable_of_attempt? hvalid (separable_run hregistry hevents) hevent hattempt
  rw [← timesOf_keyed hsubject (separable_attempts hvalid hregistry hevents)]
  exact judged_by_key hpositive hbound hfresh hattempt

/-- An attempt keeps its place until the next one of its subject. -/
theorem get?_limiter_of_attempt? (hvalid : c.IsValid) (hwindow : s.window = c.rate.windowLength)
    (hfresh : session.gateway.limiter = []) (hregistry : session.gateway.registry.Separable)
    (hevents : ∀ event ∈ events, event.ComesFrom c) (hevent : event.ComesFrom c) {now : Nat}
    (hattempt : (session.run s events).2.attempt? event = some ⟨subject, now⟩)
    {more : List Event} (hmore : ∀ event ∈ more, event.ComesFrom c)
    (hquiet : timesOf subject
      (((session.run s events).2.step s event).2.attempts s more) = []) :
    (((session.run s events).2.step s event).2.run s more).2.gateway.limiter.get? subject.key =
      gridWindow s.limit s.window (timesOf subject (session.attempts s events) ++ [now]) := by
  have hsubject : subject.Separable :=
    separable_of_attempt? hvalid (separable_run hregistry hevents) hevent hattempt
  -- A name with a colon in `more` could lead to the key of this subject, so these count as well.
  have hall : ∀ e ∈ events ++ event :: more, e.ComesFrom c :=
    List.forall_mem_append.mpr ⟨hevents, List.forall_mem_cons.mpr ⟨hevent, hmore⟩⟩
  have hkept := get?_limiter_run hvalid hwindow hfresh hregistry hall hsubject
  rw [run_append, attempts_append, attempts, hattempt, timesOf_append, timesOf_append, hquiet,
    List.append_nil, Option.toList_some, timesOf_singleton, if_pos rfl] at hkept
  exact hkept

end

/-! ## What a caller is told -/

/-- A caller is told that no calls are left exactly if the limiter was the reason. -/
theorem failure_eq_rateLimited_iff {r : Rejection} {seconds : Nat} :
    r.failure = .rateLimited seconds ↔
      ∃ resetAfter, r = .rateLimited resetAfter ∧ Time.wholeSeconds resetAfter = seconds := by
  constructor
  · intro h
    unfold Rejection.failure at h
    split at h <;> cases h
    exact ⟨_, rfl, rfl⟩
  · rintro ⟨resetAfter, rfl, rfl⟩
    rfl

/-- No reply to a call is the reason. -/
theorem delivery_failure_ne_rateLimited (cause : DeliveryFailure) (seconds : Nat) :
    (Rejection.delivery cause).failure ≠ .rateLimited seconds := by
  cases cause <;> simp [Rejection.failure]

/-- So the caller is told that no calls are left exactly if the call is rejected for it. -/
theorem told_rateLimited_iff {event : Event} {request : Request} {call : Call}
    (hrequest : event.request? = some request) (hcall : request.toCall = .ok call) :
    (∃ seconds, (session.step s event).1.told = .result (.error (.rateLimited seconds))) ↔
      ∃ resetAfter, (session.gateway.start s session.now call).1 =
        .error (.rateLimited resetAfter) := by
  constructor
  · rintro ⟨seconds, htold⟩
    obtain ⟨r, hstart, hfailure⟩ :=
      (told_error_iff hrequest hcall fun cause =>
        delivery_failure_ne_rateLimited cause seconds).mp htold
    obtain ⟨resetAfter, rfl, -⟩ := failure_eq_rateLimited_iff.mp hfailure
    exact ⟨resetAfter, hstart⟩
  · rintro ⟨resetAfter, hstart⟩
    exact ⟨_, told_of_start_eq_error hrequest hcall hstart⟩

/-- A call was answered with an output: at the event that made it, or at a later one that ends its
waiting. -/
inductive Answered (s : Gateway.Settings) (session : Session) : Event → Output → Prop
  | atOnce {request : Request} {reply : Outgoing → Reply} {reading : Reading} {output : Output}
      (told : (session.step s (.call request reply reading)).1.told = .result (.ok output)) :
      Answered s session (.call request reply reading) output
  | later {id : String} {request : Request} {reading reading' : Reading}
      {reply : Outgoing → Reply} {between : List Event} {output : Output}
      (left : (session.left? s request).isSome)
      (waits : (session.step s (.start id request reading)).2.ending? s id between = none)
      (told : (((session.step s (.start id request reading)).2.run s between).2.step s
        (.finish id reply reading')).1.told = .result (.ok output)) :
      Answered s session (.start id request reading) output

/-- A call that was answered had left the gateway, and the output shows the limit and what the
limiter left when the call was counted. -/
theorem Answered.start_eq_ok {event : Event} {output : Output} {request : Request} {call : Call}
    (h : session.Answered s event output) (hrequest : event.request? = some request)
    (hcall : request.toCall = .ok call) :
    ∃ flight, (session.gateway.start s session.now call).1 = .ok flight ∧
      output.limit = s.limit ∧ output.remaining = flight.remaining := by
  have hends {reply : Reply} {flight : InFlight} {reading : Reading} {output : Output}
      (htold : Told.result (Gateway.resultOf s flight reply reading) = .result (.ok output)) :
      output.limit = s.limit ∧ output.remaining = flight.remaining := by
    cases reply with
    | error cause => cases htold
    | ok answer =>
      cases htold
      exact ⟨rfl, rfl⟩
  cases h with
  | atOnce told =>
    cases hrequest
    rw [step] at told
    cases hstart : (session.gateway.start s session.now call).1 with
    | error r =>
      rw [startCall_of_error hcall hstart] at told
      cases told
    | ok flight =>
      rw [startCall_of_ok hcall hstart, finishCall_fst] at told
      exact ⟨flight, rfl, hends told⟩
  | later left waits told =>
    cases hrequest
    obtain ⟨flight, hflight⟩ := Option.isSome_iff_exists.mp left
    obtain ⟨call', hcall', hstart⟩ := left?_eq_some_iff.mp hflight
    obtain rfl : call = call' := Except.ok.inj (hcall.symm.trans hcall')
    have hwaits := pending_run_of_ending?_eq_none waits
    rw [step_start_of_ok hcall hstart, Table.get?_insert_self] at hwaits
    rw [step_start_of_ok hcall hstart, step_finish, hwaits, Option.elim_some,
      finishCall_fst] at told
    exact ⟨flight, hstart, hends told⟩

/-- A call that reaches the limiter is refused for want of calls exactly if the limiter does not
permit it, and shows what the limiter left if it is answered. -/
theorem told_of_attempt? {event : Event} {subject : Subject}
    (hattempt : session.attempt? event = some ⟨subject, session.now⟩) :
    let verdict := (session.gateway.limiter.spend subject.key s.limit s.window session.now).1
    ((∃ seconds, (session.step s event).1.told = .result (.error (.rateLimited seconds))) ↔
        verdict.permitted = false) ∧
      ∀ output, session.Answered s event output →
        verdict.permitted = true ∧ output.limit = s.limit ∧
          output.remaining = verdict.remaining := by
  intro verdict
  obtain ⟨request, call, hrequest, hcall, hreaches, hsubject⟩ := attempt?_eq_some_iff.mp hattempt
  obtain rfl : subject = call.subject := congrArg Attempt.key hsubject
  rw [told_rateLimited_iff hrequest hcall]
  rcases session.gateway.start_cases s session.now call with
    ⟨hnot, -, -⟩ | ⟨-, -, ⟨hrefused, hstart⟩ | ⟨hpermitted, hpasses⟩⟩
  · rw [hreaches] at hnot
    cases hnot
  · refine ⟨iff_of_true ⟨_, hstart⟩ hrefused, ?_⟩
    intro output houtput
    obtain ⟨flight, hleft, -⟩ := houtput.start_eq_ok hrequest hcall
    rw [hstart] at hleft
    cases hleft
  · refine ⟨iff_of_false ?_ (by rw [Bool.not_eq_false]; exact hpermitted), ?_⟩
    · -- A permitted call may be rejected for its credential, which is no want of calls.
      rintro ⟨resetAfter, hlimited⟩
      rcases hpasses with ⟨r, hstart, hother⟩ | ⟨flight, hstart, -⟩ <;> rw [hstart] at hlimited <;>
        cases hlimited
      exact hother _ rfl
    · intro output houtput
      obtain ⟨flight, hleft, hlimit, hshown⟩ := houtput.start_eq_ok hrequest hcall
      rcases hpasses with ⟨r, hstart, -⟩ | ⟨flight', hstart, hremaining⟩ <;>
        rw [hstart] at hleft <;> cases hleft
      exact ⟨hpermitted, hlimit, hshown.trans hremaining⟩

/-- Let a gateway run under a valid configuration, with calls of callers that the configuration
knows to tools of any names, and let one more call get past the policy. The calls of the same caller
to the same tool of the same server that did so before lay down a grid of windows, and give the call
its place in its window. The call is refused for want of calls exactly if its place is beyond the
limit. If it is ever answered, it shows how many places are left behind its own. And whatever
becomes of it and of all other calls, its place stays taken until the caller comes back. -/
theorem limited_by_own_calls (hvalid : c.IsValid) (address : SocketAddress)
    (key : Option CredentialKey) (sink : Option Audit.Sink) {events : List Event}
    (hevents : ∀ event ∈ events, event.ComesFrom c) {event : Event} (hevent : event.ComesFrom c)
    {subject : Subject} :
    let server := Server.ofConfig c address key sink
    let s := server.service.gateway
    let later := (server.session.run s events).2
    later.attempt? event = some ⟨subject, later.now⟩ →
    let own := timesOf subject (server.session.attempts s events)
    let anchor := own.headD later.now
    let k := (later.now - anchor) / c.rate.windowLength
    let i := callsIn anchor c.rate.windowLength k own + 1
    ((∃ seconds, (later.step s event).1.told = .result (.error (.rateLimited seconds))) ↔
        c.rate.limit < i) ∧
      (∀ output, later.Answered s event output →
        output.limit = c.rate.limit ∧ output.remaining = c.rate.limit - i) ∧
      ∀ more, (∀ event ∈ more, event.ComesFrom c) →
        timesOf subject ((later.step s event).2.attempts s more) = [] →
        ((later.step s event).2.run s more).2.gateway.limiter.get? subject.key =
          some ⟨anchor + k * c.rate.windowLength, min i c.rate.limit⟩ := by
  intro server s later hattempt own anchor k i
  have hregistry : server.session.gateway.registry.Separable := Config.separable_registry hvalid
  have hjudged : Judged c.rate.limit c.rate.windowLength own later.now
      (later.gateway.limiter.spend subject.key s.limit s.window later.now).1 :=
    judged_of_attempt? hvalid rfl rfl hregistry hevents hevent hattempt
  obtain ⟨htold, hanswered⟩ := told_of_attempt? (s := s) hattempt
  refine ⟨?_, ?_, ?_⟩
  · rw [htold, ← Bool.not_eq_true, hjudged.permitted, Nat.not_le]
    rfl
  · intro output houtput
    obtain ⟨hpermitted, hlimit, hremaining⟩ := hanswered output houtput
    have hleft := hjudged.remaining
    rw [if_pos hpermitted] at hleft
    exact ⟨hlimit, hremaining.trans hleft⟩
  · intro more hmore hquiet
    have hkept := get?_limiter_of_attempt? hvalid rfl rfl hregistry hevents hevent hattempt hmore
      hquiet
    rw [gridWindow_concat] at hkept
    exact hkept

/-- One call a minute passes. A caller whose first call was given up is refused the second, while
the call of another caller to the same tool is not counted. -/
theorem limited_by_own_calls_of_drop :
    let c : Config := { Config.standard with
      listener := ⟨"127.0.0.1:8088", Config.mebibyte,
        ⟨.bearerToken, [⟨"ann", "red"⟩, ⟨"bob", "blue"⟩]⟩⟩
      rate := ⟨1, 60000⟩
      servers := [⟨"s", "http://127.0.0.1:9100", .none, none, true, none⟩]
      trust := ⟨[⟨"*", .auto, 0⟩], [], []⟩ }
    let request (caller : String) : Request := ⟨caller, "s", "x:y", [0x7b, 0x7d]⟩
    let answer : Outgoing → Reply := fun _ => .ok ⟨200, .null⟩
    let events : List Event := [.start "first" (request "ann") ⟨0, 0⟩, .drop "first",
      .call (request "bob") answer ⟨0, 0⟩, .advance Time.second]
    let event : Event := .call (request "ann") answer ⟨0, 0⟩
    let address : SocketAddress := ⟨.v4 ⟨127, 0, 0, 1⟩, 0, 8088⟩
    let server := Server.ofConfig c address none none
    let s := server.service.gateway
    let later := (server.session.run s events).2
    c.IsValid ∧ (∀ event ∈ events, event.ComesFrom c) ∧ event.ComesFrom c ∧
      later.attempt? event = some ⟨⟨"ann", "s", "x:y"⟩, later.now⟩ ∧
      ∃ seconds, (later.step s event).1.told = .result (.error (.rateLimited seconds)) := by
  intro c request answer events event address server s later
  have hvalid : c.IsValid := by decide +kernel +revert
  have hevents : ∀ event ∈ events, event.ComesFrom c := by decide +kernel +revert
  have hevent : event.ComesFrom c := by decide +kernel +revert
  have hattempt : later.attempt? event = some ⟨⟨"ann", "s", "x:y"⟩, later.now⟩ := by
    decide +kernel +revert
  have hplace : c.rate.limit < placeOf c.rate.windowLength
      (timesOf ⟨"ann", "s", "x:y"⟩ (server.session.attempts s events)) later.now := by
    decide +kernel +revert
  clear_value c events event address
  obtain ⟨hlimited, -, -⟩ :=
    limited_by_own_calls hvalid address none none hevents hevent hattempt
  exact ⟨hvalid, hevents, hevent, hattempt, hlimited.mpr hplace⟩

end Session

end ToolGateway
