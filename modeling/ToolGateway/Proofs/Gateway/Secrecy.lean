import ToolGateway.Proofs.Credential.Sealing
import ToolGateway.Proofs.Gateway.Alike
import ToolGateway.Proofs.Gateway.Report

/-!
# Secrets and inner failures stay inside

Two sessions that are alike remain so through the same events, and all that callers and the audit
log learn is the same in both, times aside. Each check is followed in both sessions at once: it
passes in both or in neither, and where it fails the two causes look the same from outside.
-/

namespace ToolGateway

/-! ## Policies -/

namespace Trust

variable {outages outages' : Outages} {source : Source} {question : Question}

/-- Failures of which nothing is said. -/
abbrev Undisclosed {ε : Type} (_ _ : ε) : Prop := True

/-- A source is down in both or in neither. -/
theorem unlessDown_alike {α : Type} {down down' : Option String} (h : BothOrNeither down down')
    (found : Except String α) :
    ExceptAlike Undisclosed Eq (unlessDown down found) (unlessDown down' found) := by
  cases h with
  | some _ => exact .error trivial
  | none =>
    cases found with
    | error reason => exact .error trivial
    | ok a => exact .ok rfl

/-- The same is decided in both, or nothing is. -/
theorem decide_alike (h : outages.Alike outages') (source : Source) (question : Question) :
    ExceptAlike Undisclosed Eq ((source.during outages).decide question)
      ((source.during outages').decide question) := by
  have hagent : ExceptAlike Undisclosed Eq ((source.during outages).byAgent question)
      ((source.during outages').byAgent question) := by
    unfold Source.byAgent
    cases named? question.agent with
    | none => exact .ok rfl
    | some agent => exact (unlessDown_alike h.overrides _).mapError fun _ _ _ => trivial
  have hworkspace : ExceptAlike Undisclosed Eq ((source.during outages).byWorkspace question)
      ((source.during outages').byWorkspace question) := by
    unfold Source.byWorkspace
    cases named? question.workspace with
    | none => exact .ok rfl
    | some workspace =>
      exact ((unlessDown_alike h.rules _).mapError fun _ _ _ => trivial).map
        fun _ _ hrows => congrArg (tierByRules · question.tool) hrows
  have hdefaults : ExceptAlike Undisclosed Eq ((source.during outages).byDefaults question)
      ((source.during outages').byDefaults question) :=
    ((unlessDown_alike h.defaults _).mapError fun _ _ _ => trivial).map
      fun _ _ hrows => congrArg (fun rows => (tierByDefaults rows question.tool).getD .review) hrows
  refine hagent.bind ?_
  rintro byAgent _ rfl
  cases byAgent with
  | some tier => exact .ok rfl
  | none =>
    refine hworkspace.bind ?_
    rintro byWorkspace _ rfl
    cases byWorkspace with
    | some tier => exact .ok rfl
    | none => exact hdefaults

end Trust

/-! ## Checks -/

namespace Gateway

variable {s s' : Settings} {key key' : Option CredentialKey} {g g' : Gateway} {now : Nat}
  {call : Call} {server server' : ToolServer}

/-- A label resolves to alike records, or fails to for the same apparent reason. -/
theorem resolve_alike (h : g.Alike key key' g') (label : String) :
    ExceptAlike Rejection.Alike (fun found found' => found.1.Alike key key' found'.1 ∧
      found.2 = found'.2) (g.resolve label) (g'.resolve label) := by
  have houtage := h.registryOutage
  have hfound := h.registry.get? label
  unfold resolve
  generalize g.registryOutage = down at houtage
  generalize g'.registryOutage = down' at houtage
  cases houtage with
  | some _ => exact .error ⟨rfl, rfl, rfl⟩
  | none =>
    generalize g.registry.get? label = found at hfound
    generalize g'.registry.get? label = found' at hfound
    cases hfound with
    | none => exact .error .rfl
    | some hserver =>
      dsimp only
      rw [← hserver.enabled, ← hserver.breaker]
      split
      · split
        · exact .error .rfl
        · exact .ok ⟨hserver, rfl⟩
      · exact .error .rfl

/-- The policy answers in the same way. -/
theorem checkTrust_alike (h : g.Alike key key' g') (tool : String) (body : CallBody) :
    ExceptAlike Rejection.Alike Eq (g.checkTrust tool body) (g'.checkTrust tool body) := by
  have hdecide := Trust.decide_alike h.outages g.policy.source ⟨tool, body.agent, body.workspace⟩
  unfold checkTrust
  rw [← h.policy]
  generalize (g.policy.source.during g.outages).decide _ = decision at hdecide
  generalize (g.policy.source.during g'.outages).decide _ = decision' at hdecide
  cases hdecide with
  | error _ => exact .error ⟨rfl, rfl, rfl⟩
  | ok htier =>
    subst htier
    dsimp only
    split
    · exact .ok rfl
    · exact .error .rfl

/-- Both credentials open, or neither does for the same apparent reason. -/
theorem openCredential_alike (hs : s.Alike s') (h : server.Alike s.key s'.key server') :
    ExceptAlike Rejection.Alike
      (fun credential credential' =>
        credential.map Credential.scheme = credential'.map Credential.scheme)
      (openCredential s server) (openCredential s' server') := by
  have hstored := h.credential
  have hkey := hs.key
  unfold openCredential
  rw [← h.scheme]
  split
  · exact .ok rfl
  · generalize s.key = held at hkey hstored
    generalize s'.key = held' at hkey hstored
    generalize server.credential = sealed at hstored
    generalize server'.credential = sealed' at hstored
    cases hstored with
    | none => exact .error .rfl
    | @some stored stored' hopen =>
      cases hkey with
      | none => exact .error .rfl
      | @some k k' _ =>
        have hboth := hopen k rfl k' rfl
        dsimp only
        generalize k.openStored stored = opened at hboth
        generalize k'.openStored stored' = opened' at hboth
        cases hboth with
        | error hcause =>
          subst hcause
          exact .error .rfl
        | ok _ => exact .ok rfl

/-- The checks behind the breaker let alike requests leave, or fail for the same apparent reason,
and the limiters are the same afterwards. -/
theorem prepare_alike (hs : s.Alike s') (h : g.Alike s.key s'.key g')
    (hserver : server.Alike s.key s'.key server') (now : Nat) (call : Call) :
    ExceptAlike Rejection.Alike (fun ready ready' => ready.1.Alike ready'.1 ∧ ready.2 = ready'.2)
        (g.prepare s now call server).1 (g'.prepare s' now call server').1 ∧
      (g.prepare s now call server).2 = (g'.prepare s' now call server').2 := by
  unfold prepare
  cases readBody call with
  | error r => exact ⟨.error .rfl, h.limiter⟩
  | ok body =>
    have htrust := checkTrust_alike h call.tool body
    have hopen := openCredential_alike hs hserver
    dsimp only
    rw [← h.limiter, ← hs.limit, ← hs.window]
    generalize g.checkTrust call.tool body = trusted at htrust
    generalize g'.checkTrust call.tool body = trusted' at htrust
    cases htrust with
    | error hr => exact ⟨.error hr, rfl⟩
    | ok _ =>
      dsimp only
      split
      · generalize openCredential s server = opened at hopen
        generalize openCredential s' server' = opened' at hopen
        cases hopen with
        | error hr => exact ⟨.error hr, rfl⟩
        | ok hscheme =>
          exact ⟨.ok ⟨⟨hserver.label, hserver.endpoint, rfl, rfl, hscheme⟩, rfl⟩, rfl⟩
      · exact ⟨.error .rfl, rfl⟩

/-- Places are given back for alike causes in the same way. -/
theorem settle_alike {r r' : Rejection} (h : r.Alike r') (breakers : Breakers) (label : String)
    (admission : Admission) :
    settle breakers label admission r = settle breakers label admission r' := by
  rw [settle, settle, h.recorded]

/-- A call begins in the same way in both. -/
theorem start_alike (hs : s.Alike s') (h : g.Alike s.key s'.key g') (now : Nat) (call : Call) :
    ExceptAlike Rejection.Alike InFlight.Alike (g.start s now call).1 (g'.start s' now call).1 ∧
      (g.start s now call).2.Alike s.key s'.key (g'.start s' now call).2 := by
  have hresolve := resolve_alike h call.label
  unfold start
  generalize g.resolve call.label = resolved at hresolve
  generalize g'.resolve call.label = resolved' at hresolve
  cases hresolve with
  | error hr => exact ⟨.error hr, h⟩
  | @ok found found' hfound =>
    obtain ⟨server, breaker⟩ := found
    obtain ⟨server', breaker'⟩ := found'
    obtain ⟨hserver, rfl⟩ := hfound
    obtain ⟨hready, hlimiter⟩ := prepare_alike hs h hserver now call
    dsimp only
    rw [← h.breakers]
    rcases g.breakers.attempt call.label breaker now with ⟨admission, breakers⟩
    cases admission with
    | none => exact ⟨.error .rfl, { h with breakers := rfl }⟩
    | some admission =>
      dsimp only
      generalize g.prepare s now call server = prepared at hready hlimiter
      generalize g'.prepare s' now call server' = prepared' at hready hlimiter
      obtain ⟨outcome, limiter⟩ := prepared
      obtain ⟨outcome', limiter'⟩ := prepared'
      obtain rfl : limiter = limiter' := hlimiter
      cases hready with
      | error hr =>
        exact ⟨.error hr, { h with
          breakers := settle_alike hr breakers call.label admission
          limiter := rfl }⟩
      | ok hrequest =>
        obtain ⟨houtgoing, hremaining⟩ := hrequest
        exact ⟨.ok ⟨rfl, rfl, rfl, rfl, hremaining, houtgoing⟩,
          { h with breakers := rfl, limiter := rfl }⟩

/-- A reply is taken in in the same way in both. -/
theorem finish_alike {flight flight' : InFlight} {reply reply' : Reply} (h : g.Alike key key' g')
    (hflight : flight.Alike flight') (hreply : reply.Alike reply') (now : Nat) :
    (g.finish now flight reply).2.Alike key key' (g'.finish now flight' reply').2 := by
  unfold finish
  rw [← hflight.call, ← hflight.breaker, ← hflight.admission, ← h.breakers]
  cases hreply with
  | ok hanswer =>
    subst hanswer
    exact { h with breakers := rfl }
  | @error cause cause' hcause =>
    have hevidence : cause.isEvidence = cause'.isEvidence := hcause.rejection.recorded
    dsimp only
    rw [← hevidence]
    exact { h with breakers := settle_alike hcause.rejection _ _ _ }

/-- The same tool servers are listed. -/
theorem list_eq (h : g.Alike key key' g') : g.list = g'.list := by
  have houtage := h.registryOutage
  have hvalues : (g.registry.values.filter (·.enabled)).map (fun s => (s.label, s.endpoint)) =
      (g'.registry.values.filter (·.enabled)).map fun s => (s.label, s.endpoint) := by
    have hregistry := h.registry
    generalize g.registry = registry at hregistry
    generalize g'.registry = registry' at hregistry
    unfold Table.values
    induction hregistry with
    | nil => rfl
    | cons hb _ ih =>
      rw [List.map_cons, List.map_cons, List.filter_cons, List.filter_cons, hb.2.enabled]
      split
      · rw [List.map_cons, List.map_cons, ih, hb.2.label, hb.2.endpoint]
      · exact ih
  unfold list
  rw [hvalues]
  generalize g.registryOutage = down at houtage
  generalize g'.registryOutage = down' at houtage
  cases houtage <;> rfl

end Gateway

/-! ## Events -/

namespace Session

variable {s s' : Gateway.Settings} {session session' : Session}

/-- Two events did alike and led to alike sessions. -/
def DoneAlike (key key' : Option CredentialKey) (done done' : Effects × Session) : Prop :=
  done.1.Alike done'.1 ∧ done.2.Alike key key' done'.2

/-- A rejection is told and recorded in the same way. -/
theorem rejected_alike {r r' : Rejection} (h : r.Alike r') (call : Call)
    (reading reading' : Reading) :
    (rejected [] call r reading).Alike (rejected [] call r' reading') := by
  refine ⟨.nil, ?_, ?_⟩
  · simp [rejected, Gateway.rejectedEntry, Audit.Entry.toolCall, Audit.Entry.untimed, h.outcome]
  · simp [rejected, Told.untimed, h.failure]

/-- A call ends in the same way in both. -/
theorem finishCall_alike {key key' : Option CredentialKey} {flight flight' : InFlight}
    {reply reply' : Reply} {forwarded forwarded' : List Outgoing} (hs : s.Alike s')
    (h : session.Alike key key' session') (hflight : flight.Alike flight')
    (hreply : reply.Alike reply') (hforwarded : List.Forall₂ Outgoing.Alike forwarded forwarded')
    (reading reading' : Reading) :
    DoneAlike key key' (session.finishCall s forwarded flight reply reading)
      (session'.finishCall s' forwarded' flight' reply' reading') := by
  refine ⟨?_, ?_⟩
  · rw [finishCall_fst, finishCall_fst]
    cases hreply with
    | ok hanswer =>
      subst hanswer
      refine ⟨hforwarded, ?_, ?_⟩
      · simp [Gateway.entryOf, Gateway.answeredEntry, Audit.Entry.toolCall, Audit.Entry.untimed,
          hflight.call]
      · simp [Gateway.resultOf, Gateway.outputOf, Told.untimed, hs.limit, hflight.remaining]
    | error hcause =>
      refine ⟨hforwarded, ?_, ?_⟩
      · simp [Gateway.entryOf, Gateway.rejectedEntry, Audit.Entry.toolCall, Audit.Entry.untimed,
          hflight.call, hcause.rejection.outcome]
      · simp [Gateway.resultOf, Told.untimed, hcause.rejection.failure]
  · rw [finishCall_snd, finishCall_snd, ← h.now]
    exact ⟨Gateway.finish_alike h.gateway hflight hreply session.now, rfl, h.pending⟩

/-- A call begins in the same way in both, if it goes on in the same way. -/
theorem startCall_alike {request : Request} {goOn goOn' : Session → InFlight → Effects × Session}
    (hs : s.Alike s') (h : session.Alike s.key s'.key session')
    (hgoOn : ∀ flight flight' later later', session.left? s request = some flight →
      session'.left? s' request = some flight' → flight.Alike flight' →
      later.Alike s.key s'.key later' →
        DoneAlike s.key s'.key (goOn later flight) (goOn' later' flight'))
    (reading reading' : Reading) :
    DoneAlike s.key s'.key (session.startCall s request reading goOn)
      (session'.startCall s' request reading' goOn') := by
  cases hcall : request.toCall with
  | error failure =>
    rw [startCall, startCall, hcall]
    exact ⟨⟨.nil, rfl, rfl⟩, h⟩
  | ok call =>
    obtain ⟨gateway, now, pending⟩ := session
    obtain ⟨gateway', now', pending'⟩ := session'
    obtain rfl : now = now' := h.now
    obtain ⟨hstarted, hlater⟩ := Gateway.start_alike hs h.gateway now call
    generalize hstart : (gateway.start s now call).1 = outcome at hstarted
    generalize hstart' : (gateway'.start s' now call).1 = outcome' at hstarted
    cases hstarted with
    | error hr =>
      rw [startCall_of_error hcall hstart, startCall_of_error hcall hstart']
      exact ⟨rejected_alike hr call reading reading', hlater, rfl, h.pending⟩
    | ok hflight =>
      rw [startCall_of_ok hcall hstart, startCall_of_ok hcall hstart']
      exact hgoOn _ _ _ _ (left?_eq_some_iff.mpr ⟨call, hcall, hstart⟩)
        (left?_eq_some_iff.mpr ⟨call, hcall, hstart'⟩) hflight ⟨hlater, rfl, h.pending⟩

/-- Alike events happen in the same way, if calls that are completed in both get alike replies. -/
theorem step_alike {event event' : Event} (hs : s.Alike s')
    (h : session.Alike s.key s'.key session') (hevent : event.Alike s.key s'.key event')
    (hreplies : ∀ flight flight' reply reply', session.completes s event = some (flight, reply) →
      session'.completes s' event' = some (flight', reply') → reply.Alike reply') :
    DoneAlike s.key s'.key (session.step s event) (session'.step s' event') := by
  cases hevent with
  | call request reply reply' reading reading' =>
    rw [step, step]
    refine startCall_alike hs h (fun flight flight' later later' hleft hleft' hflight hlater => ?_)
      reading reading'
    have hreply : (reply flight.request).Alike (reply' flight'.request) :=
      hreplies flight flight' _ _ (by rw [completes, hleft]; rfl) (by rw [completes, hleft']; rfl)
    exact finishCall_alike hs hlater hflight hreply (.cons hflight.request .nil) reading reading'
  | start id request reading reading' =>
    rw [step, step]
    refine startCall_alike hs h (fun flight flight' later later' _ _ hflight hlater => ?_)
      reading reading'
    exact ⟨⟨.cons hflight.request .nil, rfl, rfl⟩,
      { hlater with pending := hlater.pending.insert id hflight }⟩
  | finish id reply reply' reading reading' =>
    have hwaits := h.pending.get? id
    have hrest : Session.Alike s.key s'.key { session with pending := session.pending.erase id }
        { session' with pending := session'.pending.erase id } :=
      ⟨h.gateway, h.now, h.pending.erase id⟩
    rw [step_finish, step_finish]
    rw [completes, completes] at hreplies
    generalize session.pending.get? id = waiting at hwaits hreplies
    generalize session'.pending.get? id = waiting' at hwaits hreplies
    cases hwaits with
    | none => exact ⟨⟨.nil, rfl, rfl⟩, h⟩
    | @some flight flight' hflight =>
      exact finishCall_alike hs hrest hflight (hreplies flight flight' _ _ rfl rfl) .nil
        reading reading'
  | drop id =>
    have hwaits := h.pending.get? id
    rw [step_drop, step_drop]
    generalize session.pending.get? id = waiting at hwaits
    generalize session'.pending.get? id = waiting' at hwaits
    cases hwaits with
    | none => exact ⟨⟨.nil, rfl, rfl⟩, h⟩
    | some _ => exact ⟨⟨.nil, rfl, rfl⟩, { h with pending := h.pending.erase id }⟩
  | advance nanoseconds =>
    exact ⟨⟨.nil, rfl, rfl⟩, { h with now := congrArg (· + nanoseconds) h.now }⟩
  | @register server server' hserver =>
    have hregistered : (session.gateway.registry.register server).Alike
        (ToolServer.Alike s.key s'.key) (session'.gateway.registry.register server') := by
      unfold Registry.register
      rw [← hserver.label]
      exact h.gateway.registry.insert server.label hserver
    exact ⟨⟨.nil, rfl, rfl⟩, { h with gateway := { h.gateway with registry := hregistered } }⟩
  | addOverride row =>
    exact ⟨⟨.nil, rfl, rfl⟩, { h with
      gateway := { h.gateway with policy := congrArg (·.addOverride row) h.gateway.policy } }⟩
  | addRule workspace row =>
    exact ⟨⟨.nil, rfl, rfl⟩, { h with
      gateway := { h.gateway with policy := congrArg (·.addRule workspace row) h.gateway.policy } }⟩
  | addDefault row =>
    exact ⟨⟨.nil, rfl, rfl⟩, { h with
      gateway := { h.gateway with policy := congrArg (·.addDefault row) h.gateway.policy } }⟩
  | outage hregistry hpolicy =>
    exact ⟨⟨.nil, rfl, rfl⟩, { h with
      gateway := { h.gateway with registryOutage := hregistry, outages := hpolicy } }⟩

/-! ## Runs -/

variable {events events' : List Event}

/-- Where calls are completed at the same position of two runs, they get alike replies. -/
def RepliesAlike (s s' : Gateway.Settings) (session session' : Session)
    (events events' : List Event) : Prop :=
  ∀ i event event' flight flight' reply reply', events[i]? = some event →
    events'[i]? = some event' →
    (session.reach s events i).completes s event = some (flight, reply) →
    (session'.reach s' events' i).completes s' event' = some (flight', reply') →
      reply.Alike reply'

/-- Alike sessions do the same in alike runs, and are alike at every position of them. -/
theorem run_alike (hs : s.Alike s') (h : session.Alike s.key s'.key session')
    (hevents : List.Forall₂ (Event.Alike s.key s'.key) events events')
    (hreplies : RepliesAlike s s' session session' events events') :
    List.Forall₂ Effects.Alike (session.run s events).1 (session'.run s' events').1 ∧
      ∀ i, (session.reach s events i).Alike s.key s'.key (session'.reach s' events' i) := by
  induction hevents generalizing session session' with
  | nil =>
    refine ⟨.nil, fun i => ?_⟩
    rw [reach_of_length_le (Nat.zero_le i), reach_of_length_le (Nat.zero_le i)]
    exact h
  | @cons event event' events events' hevent _ ih =>
    obtain ⟨heffects, hnext⟩ := step_alike hs h hevent fun flight flight' reply reply' =>
      hreplies 0 event event' flight flight' reply reply' rfl rfl
    obtain ⟨hrest, hreach⟩ := ih hnext fun i => hreplies (i + 1)
    refine ⟨.cons heffects hrest, fun i => ?_⟩
    cases i with
    | zero => exact h
    | succ i => exact hreach i

/-- Neither secrets nor the texts of inner failures reach a caller or the audit log. Where two
gateways differ in these alone, and so do the events of two runs and the replies of the tool
servers, callers are told the same and the same is recorded, but for times that were measured;
breakers and limiters are the same at every position, and so are the lists of tool servers. -/
theorem secrets_unseen {g g' : Gateway} (hs : s.Alike s') (hg : g.Alike s.key s'.key g')
    (hevents : List.Forall₂ (Event.Alike s.key s'.key) events events')
    (hreplies : RepliesAlike s s' (new g) (new g') events events') :
    ((new g).run s events).1.map (·.told.untimed) =
        ((new g').run s' events').1.map (·.told.untimed) ∧
      ((new g).run s events).1.map (·.audited.map Audit.Entry.untimed) =
        ((new g').run s' events').1.map (·.audited.map Audit.Entry.untimed) ∧
      ∀ i, ((new g).reach s events i).gateway.breakers =
          ((new g').reach s' events' i).gateway.breakers ∧
        ((new g).reach s events i).gateway.limiter =
          ((new g').reach s' events' i).gateway.limiter ∧
        ((new g).reach s events i).gateway.list = ((new g').reach s' events' i).gateway.list := by
  have hbegin : (new g).Alike s.key s'.key (new g') := ⟨hg, rfl, .nil⟩
  obtain ⟨heffects, hreach⟩ := run_alike hs hbegin hevents hreplies
  have hsame {α : Type} (f : Effects → α) (hf : ∀ effects effects' : Effects,
      effects.Alike effects' → f effects = f effects') :
      ((new g).run s events).1.map f = ((new g').run s' events').1.map f := by
    generalize ((new g).run s events).1 = done at heffects
    generalize ((new g').run s' events').1 = done' at heffects
    induction heffects with
    | nil => rfl
    | cons heffects _ ih => rw [List.map_cons, List.map_cons, ih, hf _ _ heffects]
  refine ⟨hsame _ fun _ _ h => h.told, hsame _ fun _ _ h => h.audited, fun i => ?_⟩
  have hgateway := (hreach i).gateway
  exact ⟨hgateway.breakers, hgateway.limiter, Gateway.list_eq hgateway⟩

/-- Two gateways send different secrets, sealed under different keys, with a call. Of the calls that
follow one fails in transit and one finds the registry down, for reasons that differ. -/
theorem secrets_unseen_of_sealed :
    let k : CredentialKey := ⟨List.replicate 32 1, rfl⟩
    let k' : CredentialKey := ⟨List.replicate 32 2, rfl⟩
    let settings (k : CredentialKey) : Gateway.Settings := ⟨60, 60 * Time.second, some k⟩
    let stored (k : CredentialKey) (text : String) : String :=
      k.sealSecret (List.replicate 12 0) ⟨text⟩
    let server (credential : String) : ToolServer :=
      ⟨"s", "http://127.0.0.1:9100", .bearer, some credential, true, none⟩
    let request : Request := ⟨"me", "s", "echo", [0x7b, 0x7d]⟩
    let events (credential reason : String) (latency : Nat) : List Event :=
      [.addDefault ⟨"*", .auto, 0⟩, .register (server credential),
        .call request (fun _ => .ok ⟨200, .null⟩) ⟨latency, latency⟩,
        .call request (fun _ => .error (.transport reason)) ⟨latency, latency⟩,
        .outage (some reason) ⟨none, none, none⟩,
        .call request (fun _ => .ok ⟨200, .null⟩) ⟨latency, latency⟩]
    let g := Gateway.new [] .empty
    let run := (new g).run (settings k) (events (stored k "red") "refused" 1)
    let run' := (new g).run (settings k') (events (stored k' "blue") "reset" 2)
    (∃ effects ∈ run.1, ∃ out ∈ effects.forwarded, out.credential = some ⟨.bearer, ⟨"red"⟩⟩) ∧
      (∃ effects ∈ run'.1, ∃ out ∈ effects.forwarded,
        out.credential = some ⟨.bearer, ⟨"blue"⟩⟩) ∧
      run.1.map (·.told.untimed) = run'.1.map (·.told.untimed) ∧
      run.1.map (·.audited.map Audit.Entry.untimed) =
        run'.1.map (·.audited.map Audit.Entry.untimed) := by
  intro k k' settings stored server request events g run run'
  have hlabel : Text.trim request.label = "s" := by decide +kernel +revert
  have htool : Text.trim request.tool = "echo" := by decide +kernel +revert
  have hparses : (CallBody.parse? request.body).map (fun body => (body.workspace, body.agent)) =
      some (none, none) := by
    decide +kernel +revert
  have hauto : ((Trust.Policy.empty.addDefault ⟨"*", .auto, 0⟩).source.during
      ⟨none, none, none⟩).decide ⟨"echo", none, none⟩ = .ok .auto := by
    decide +kernel
  have hopen : k.openStored (stored k "red") = .ok ⟨"red"⟩ := k.openStored_sealSecret rfl _
  have hopen' : k'.openStored (stored k' "blue") = .ok ⟨"blue"⟩ := k'.openStored_sealSecret rfl _
  clear_value stored k k'
  have hstored : OpenAlike (settings k).key (settings k').key (stored k "red")
      (stored k' "blue") := by
    rintro _ ⟨⟩ _ ⟨⟩
    rw [hopen, hopen']
    exact .ok trivial
  have hserver : (server (stored k "red")).Alike (settings k).key (settings k').key
      (server (stored k' "blue")) := ⟨rfl, rfl, rfl, .some hstored, rfl, rfl⟩
  have hevents : List.Forall₂ (Event.Alike (settings k).key (settings k').key)
      (events (stored k "red") "refused" 1) (events (stored k' "blue") "reset" 2) :=
    .cons (.addDefault _) (.cons (.register hserver) (.cons (.call _ _ _ _ _)
      (.cons (.call _ _ _ _ _) (.cons (.outage (.some trivial) ⟨.none, .none, .none⟩)
        (.cons (.call _ _ _ _ _) .nil)))))
  have hgiven {s : Gateway.Settings} {session : Session} {given reply : Reply}
      {reading : Reading} {flight : InFlight}
      (h : session.completes s (.call request (fun _ => given) reading) = some (flight, reply)) :
      reply = given := by
    obtain ⟨_, -, heq⟩ := Option.map_eq_some_iff.mp h
    exact (Prod.mk.inj heq).2.symm
  have hreplies : RepliesAlike (settings k) (settings k') (new g) (new g)
      (events (stored k "red") "refused" 1) (events (stored k' "blue") "reset" 2) := by
    intro i event event' flight flight' reply reply' hi hi' hdone hdone'
    rcases i with _ | _ | _ | _ | _ | _ | i <;> cases hi <;> cases hi'
    · cases hdone
    · cases hdone
    · rw [hgiven hdone, hgiven hdone']
      exact .ok rfl
    · rw [hgiven hdone, hgiven hdone']
      exact .error (.transport _ _)
    · cases hdone
    · rw [hgiven hdone, hgiven hdone']
      exact .ok rfl
  have hsent {k : CredentialKey} {credential text : String} (reason : String) (latency : Nat)
      (h : k.openStored credential = .ok ⟨text⟩) :
      ∃ effects ∈ ((new g).run (settings k) (events credential reason latency)).1,
        ∃ out ∈ effects.forwarded, out.credential = some ⟨.bearer, ⟨text⟩⟩ := by
    obtain ⟨⟨arguments, _, _⟩, hparsed, ⟨⟩⟩ := Option.map_eq_some_iff.mp hparses
    let out : Outgoing := ⟨"s", "http://127.0.0.1:9100", "echo", arguments, some ⟨.bearer, ⟨text⟩⟩⟩
    have hclears : ((new g).reach (settings k) (events credential reason latency) 2).Clears
        (settings k) request (server credential) ⟨arguments, none, none⟩ out := {
      label_ne := by rw [hlabel]; decide
      tool_ne := by rw [htool]; decide
      readable := rfl
      found := by rw [hlabel]; rfl
      enabled := rfl
      admitted := by rw [hlabel]; exact ⟨_, rfl, Option.some_ne_none _⟩
      parsed := hparsed
      allowed := by rw [htool]; exact hauto
      permitted := rfl
      opened := Or.inr ⟨nofun, credential, k, ⟨text⟩, rfl, rfl, h, rfl⟩
      label_eq := rfl
      endpoint_eq := rfl
      tool_eq := htool.symm
      arguments_eq := rfl }
    refine ⟨_, List.mem_of_getElem? (getElem?_run_fst (new g) _ 2), out, ?_, rfl⟩
    exact ((forwarded_step _ _).2 out).mpr ⟨request, rfl, _, _, hclears⟩
  have hsettings : (settings k).Alike (settings k') := ⟨rfl, rfl, .some trivial⟩
  have hgateway : g.Alike (settings k).key (settings k').key g :=
    ⟨.nil, .none, rfl, ⟨.none, .none, .none⟩, rfl, rfl⟩
  have hred := hsent "refused" 1 hopen
  have hblue := hsent "reset" 2 hopen'
  clear_value settings events g
  obtain ⟨htold, haudited, -⟩ := secrets_unseen hsettings hgateway hevents hreplies
  exact ⟨hred, hblue, htold, haudited⟩

end Session

end ToolGateway
