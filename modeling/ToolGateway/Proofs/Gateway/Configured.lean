import ToolGateway.Proofs.Config.Registry
import ToolGateway.Proofs.Credential.Sealing
import ToolGateway.Proofs.Delivery.Buildable
import ToolGateway.Proofs.Gateway.Report
import ToolGateway.Proofs.Trust.Tables
import ToolGateway.Server

/-!
# Calls behind a valid configuration

A configuration is checked once, before any call, by code that reads its fields in its own way. What
it lets through is enough for every call: while no record is added and no source fails, the breaker
settings of a record are readable, the policy decides, a credential that is needed is there with its
key and can be decoded, and the URL of every tool can be built. What may still be wrong with a
credential is what the checks cannot see: it does not open under the key, or no header can hold it.
-/

namespace ToolGateway

/-- An event adds no record and lets no source fail. -/
def Event.KeepsSources : Event → Prop
  | .register _ => False
  | .outage _ _ => False
  | _ => True

namespace Gateway

variable {g : Gateway} {s : Settings} {now : Nat} {call : Call} {server : ToolServer}

/-- A registry that can be read rejects a label without a record, and one whose record is switched
off or has breaker settings that cannot be read. -/
theorem of_resolve_eq_error_of_none {label : String} {r : Rejection}
    (hreadable : g.registryOutage = none) (h : g.resolve label = .error r) :
    r = .serverNotFound ∨ r = .serverDisabled ∨ ∃ server, g.registry.get? label = some server ∧
      Breaker.Settings.parse? server.breaker = none := by
  unfold resolve at h
  rw [hreadable] at h
  dsimp only at h
  split at h
  · exact Or.inl (Except.error.inj h).symm
  · next server hfound =>
    split at h
    · split at h
      · next hparse => exact Or.inr (Or.inr ⟨server, hfound, hparse⟩)
      · cases h
    · exact Or.inr (Or.inl (Except.error.inj h).symm)

/-- A call is rejected by its record, its breaker or a check behind it. -/
theorem of_start_eq_error {r : Rejection} (h : (g.start s now call).1 = .error r) :
    g.resolve call.label = .error r ∨ r = .circuitOpen ∨
      ∃ server breaker, g.resolve call.label = .ok (server, breaker) ∧
        (g.prepare s now call server).1 = .error r := by
  cases hresolve : g.resolve call.label with
  | error r' =>
    rw [start_of_resolve_eq_error hresolve] at h
    exact Or.inl (congrArg _ (Except.error.inj h))
  | ok found =>
    obtain ⟨server, breaker⟩ := found
    right
    cases hattempt : (g.breakers.attempt call.label breaker now).1 with
    | none =>
      rw [start_of_attempt_eq_none hresolve hattempt] at h
      exact Or.inl (Except.error.inj h).symm
    | some admission =>
      right
      refine ⟨server, breaker, rfl, ?_⟩
      cases hprepare : (g.prepare s now call server).1 with
      | error r' =>
        rw [start_of_prepare_eq_error hresolve hattempt hprepare] at h
        exact congrArg _ (Except.error.inj h)
      | ok ready =>
        rw [start_of_prepare_eq_ok hresolve hattempt hprepare] at h
        cases h

/-- The checks behind the breaker reject a call for its body, its tier, the limiter or the
credential, unless the policy cannot be asked. -/
theorem of_prepare_eq_error {r : Rejection} (h : (g.prepare s now call server).1 = .error r) :
    r = .invalidBody ∨ (∃ body, g.checkTrust call.tool body = .error r) ∨
      (∃ resetAfter, r = .rateLimited resetAfter) ∨ openCredential s server = .error r := by
  cases hbody : readBody call with
  | error r' =>
    unfold prepare at h
    rw [hbody] at h
    have hr : r' = r := Except.error.inj h
    unfold readBody at hbody
    split at hbody <;> cases hbody
    exact Or.inl hr.symm
  | ok body =>
    right
    cases htrust : g.checkTrust call.tool body with
    | error r' =>
      unfold prepare at h
      rw [hbody] at h
      dsimp only at h
      rw [htrust] at h
      exact Or.inl ⟨body, htrust.trans (congrArg _ (Except.error.inj h))⟩
    | ok _ =>
      right
      rcases g.prepare_cases s now call server with
        ⟨hpasses, -⟩ | ⟨-, -, hprepare⟩ | ⟨-, -, ⟨r', hopen, hprepare⟩ | ⟨ready, hprepare⟩⟩
      · rw [passesPolicy, hbody] at hpasses
        dsimp only at hpasses
        rw [htrust] at hpasses
        cases hpasses
      · rw [hprepare] at h
        exact Or.inl ⟨_, (Except.error.inj h).symm⟩
      · rw [hprepare] at h
        exact Or.inr (hopen.trans (congrArg _ (Except.error.inj h)))
      · rw [hprepare] at h
        cases h

/-- A policy that can be read rejects a call only for its tier. -/
theorem of_checkTrust_eq_error_of_none {tool : String} {body : CallBody} {r : Rejection}
    (hreadable : g.outages = .none) (h : g.checkTrust tool body = .error r) :
    ∃ tier, r = .trustDenied tier := by
  have hduring : g.policy.source.during g.outages = g.policy.source := by
    rw [hreadable]
    rfl
  rw [checkTrust, hduring, Trust.Policy.decide_source] at h
  dsimp only at h
  split at h
  · cases h
  · exact ⟨_, (Except.error.inj h).symm⟩

end Gateway

/-! ## What the checks let through -/

/-- A stored text that cannot be opened is no Base64, not authentic or no text. -/
theorem CredentialKey.of_openStored_eq_error {key : CredentialKey} {stored : String}
    {cause : CredentialError} (h : key.openStored stored = .error cause) :
    decodeStored stored = .error cause ∨ cause = .notAuthentic ∨ cause = .notText := by
  unfold openStored at h
  cases hdecode : decodeStored stored with
  | error cause' =>
    rw [hdecode] at h
    exact Or.inl (congrArg _ (Except.error.inj h))
  | ok bytes =>
    rw [hdecode] at h
    dsimp only [bind, Except.bind] at h
    right
    cases hplain : key.decrypt bytes with
    | error cause' =>
      rw [hplain] at h
      obtain rfl : cause' = cause := Except.error.inj h
      exact Or.inl (of_decrypt_eq_error hplain)
    | ok plain =>
      rw [hplain] at h
      dsimp only at h
      split at h
      · cases h
      · exact Or.inr (Except.error.inj h).symm

namespace Config

variable {c : Config} {server : ToolServer} {lookup : String → Option String}
  {key : Option CredentialKey}

/-- The parts of a tool server of a valid configuration are without faults. -/
theorem IsValid.serverParts (h : c.IsValid) (hserver : server ∈ c.servers) :
    endpointFaults server.endpoint = [] ∧ credentialFaults server.scheme server.credential = [] ∧
      Breaker.Settings.parse? server.breaker ≠ none := by
  have hfaults := h.serverFaults_eq_nil hserver
  simp only [serverFaults, List.append_eq_nil_iff, List.map_eq_nil_iff] at hfaults
  obtain ⟨-, ⟨hendpoint, hcredential⟩, hbreaker⟩ := hfaults
  refine ⟨hendpoint, hcredential, fun hnone => ?_⟩
  rw [ServerFault.when, if_pos hnone] at hbreaker
  cases hbreaker

/-- Where a credential is needed, there is one that can be decoded. -/
theorem exists_decodeStored_of_credentialFaults {scheme : Scheme} {credential : Option String}
    (h : credentialFaults scheme credential = []) (hscheme : scheme ≠ .none) :
    ∃ stored bytes, credential = some stored ∧ CredentialKey.decodeStored stored = .ok bytes := by
  cases credential with
  | none => cases scheme <;> simp_all [credentialFaults]
  | some stored =>
    cases hdecode : CredentialKey.decodeStored stored with
    | ok bytes => exact ⟨stored, bytes, rfl, hdecode⟩
    | error cause => cases scheme <;> simp_all [credentialFaults]

/-- And there is a key, once the key is loaded. -/
theorem exists_key (hkey : c.key lookup = .ok key) (hserver : server ∈ c.servers)
    (hscheme : server.scheme ≠ .none) : ∃ k, key = some k := by
  have hneeds : c.needsKey = true :=
    List.any_eq_true.mpr ⟨server, hserver, decide_eq_true hscheme⟩
  unfold Config.key at hkey
  split at hkey
  · split at hkey
    · exact ⟨_, (Except.ok.inj hkey).symm⟩
    · cases hkey
  · rw [hneeds, if_pos rfl] at hkey
    cases hkey

/-- So a credential is rejected only if it does not open under the key. -/
theorem IsValid.of_openCredential_eq_error (h : c.IsValid) (hkey : c.key lookup = .ok key)
    (hserver : server ∈ c.servers) {r : Rejection}
    (hr : Gateway.openCredential (Server.settings c key) (registered server) = .error r) :
    r = .credentialUnreadable .notAuthentic ∨ r = .credentialUnreadable .notText := by
  have hcredential : (registered server).credential = server.credential := rfl
  have hscheme : (registered server).scheme = server.scheme := rfl
  unfold Gateway.openCredential at hr
  rw [hcredential, hscheme] at hr
  by_cases hnone : server.scheme = .none
  · rw [if_pos hnone] at hr
    cases hr
  · obtain ⟨stored, bytes, hstored, hdecode⟩ :=
      exists_decodeStored_of_credentialFaults (h.serverParts hserver).2.1 hnone
    obtain ⟨k, rfl⟩ := exists_key hkey hserver hnone
    rw [if_neg hnone, hstored] at hr
    dsimp only [Server.settings] at hr
    cases hopen : k.openStored stored with
    | ok secret =>
      rw [hopen] at hr
      cases hr
    | error cause =>
      rw [hopen] at hr
      obtain rfl := Except.error.inj hr
      rcases CredentialKey.of_openStored_eq_error hopen with hcause | rfl | rfl
      · rw [hdecode] at hcause
        cases hcause
      · exact Or.inl rfl
      · exact Or.inr rfl

end Config

/-! ## Sessions with all their sources -/

/-- A rejection for something that the checks of a configuration cannot see. -/
def Rejection.IsUnforeseen (r : Rejection) : Prop :=
  r.outcome ∉ [Outcome.invalidBreaker, .registryFailure, .policyFailure] ∧
    ∀ message, r.failure = .internal message →
      message = "stored credential could not be decrypted" ∨
        message = "upstream request could not be built"

/-- A reply can only bring such a rejection. -/
theorem Rejection.isUnforeseen_delivery (cause : DeliveryFailure) :
    (Rejection.delivery cause).IsUnforeseen := by
  cases cause <;> simp [IsUnforeseen, outcome, failure]

namespace Session

variable {c : Config} {session : Session} {s : Gateway.Settings} {lookup : String → Option String}
  {key : Option CredentialKey} {events : List Event}

/-- A session has the records of a configuration and can read all its sources. -/
structure HasSources (c : Config) (session : Session) : Prop where
  registry : session.gateway.registry = c.registry
  registryOutage : session.gateway.registryOutage = none
  outages : session.gateway.outages = .none

/-- It goes on having them. -/
theorem HasSources.step (h : session.HasSources c) {event : Event} (hevent : event.KeepsSources) :
    (session.step s event).2.HasSources c := by
  cases hcall : event.isOfCall with
  | true =>
    obtain ⟨breakers, limiter, pending, hframe⟩ := sameFrame_step (s := s) session hcall
    rw [hframe]
    exact ⟨h.registry, h.registryOutage, h.outages⟩
  | false =>
    cases event with
    | register server => exact hevent.elim
    | outage registry policy => exact hevent.elim
    | call request reply reading => cases hcall
    | start id request reading => cases hcall
    | finish id reply reading => cases hcall
    | drop id => cases hcall
    | _ => exact ⟨h.registry, h.registryOutage, h.outages⟩

/-- It has them at every position of a run that keeps them. -/
theorem HasSources.reach (h : session.HasSources c) (hevents : ∀ event ∈ events, event.KeepsSources)
    (i : Nat) : (session.reach s events i).HasSources c :=
  reach_induction (P := HasSources c) h fun _ event hevent h =>
    h.step (hevents event (List.mem_of_mem_take hevent))

/-- So a server of a configuration has them. -/
theorem hasSources_reach (hevents : ∀ event ∈ events, event.KeepsSources) (address : SocketAddress)
    (sink : Option Audit.Sink) (i : Nat) :
    ((Server.ofConfig c address key sink).session.reach s events i).HasSources c :=
  HasSources.reach ⟨rfl, rfl, rfl⟩ hevents i

/-- In such a session a call is only rejected for what the checks cannot see. -/
theorem HasSources.isUnforeseen_of_start (h : session.HasSources c) (hvalid : c.IsValid)
    (hkey : c.key lookup = .ok key) {call : Call} {r : Rejection}
    (hstart : (session.gateway.start (Server.settings c key) session.now call).1 = .error r) :
    r.IsUnforeseen := by
  have hrecord {label : String} {record : ToolServer}
      (hfound : session.gateway.registry.get? label = some record) :
      ∃ server ∈ c.servers, server.label = label ∧ Config.registered server = record :=
    hvalid.get?_registry_eq_some_iff.mp (h.registry ▸ hfound)
  rcases Gateway.of_start_eq_error hstart with
    hresolve | rfl | ⟨server, breaker, hresolve, hprepare⟩
  · rcases Gateway.of_resolve_eq_error_of_none h.registryOutage hresolve with
      rfl | rfl | ⟨record, hfound, hparse⟩
    · simp [Rejection.IsUnforeseen, Rejection.outcome, Rejection.failure]
    · simp [Rejection.IsUnforeseen, Rejection.outcome, Rejection.failure]
    · obtain ⟨written, hwritten, -, rfl⟩ := hrecord hfound
      exact absurd hparse (hvalid.serverParts hwritten).2.2
  · simp [Rejection.IsUnforeseen, Rejection.outcome, Rejection.failure]
  · rcases Gateway.of_prepare_eq_error hprepare with
      rfl | ⟨body, htrust⟩ | ⟨resetAfter, rfl⟩ | hopen
    · simp [Rejection.IsUnforeseen, Rejection.outcome, Rejection.failure]
    · obtain ⟨tier, rfl⟩ := Gateway.of_checkTrust_eq_error_of_none h.outages htrust
      simp [Rejection.IsUnforeseen, Rejection.outcome, Rejection.failure]
    · simp [Rejection.IsUnforeseen, Rejection.outcome, Rejection.failure]
    · obtain ⟨-, hfound, -⟩ := Gateway.resolve_eq_ok_iff.mp hresolve
      obtain ⟨written, hwritten, -, rfl⟩ := hrecord hfound
      rcases hvalid.of_openCredential_eq_error hkey hwritten hopen with rfl | rfl <;>
        simp [Rejection.IsUnforeseen, Rejection.outcome, Rejection.failure]

/-- So nothing else is recorded or told at any event. -/
theorem HasSources.report (h : session.HasSources c) (hvalid : c.IsValid)
    (hkey : c.key lookup = .ok key) (event : Event) :
    let effects := (session.step (Server.settings c key) event).1
    (∀ entry ∈ effects.audited,
        entry.details.outcome ∉ [.invalidBreaker, .registryFailure, .policyFailure]) ∧
      ∀ message, effects.told = .result (.error (.internal message)) →
        message = "stored credential could not be decrypted" ∨
          message = "upstream request could not be built" := by
  intro effects
  rcases report_cases (s := Server.settings c key) session event with
    ⟨request, failure, -, hcall, heffects⟩ | ⟨request, call, r, reading, -, -, hstart, heffects⟩ |
    ⟨flight, reply, reading, -, haudited, htold⟩ | ⟨-, haudited, htold⟩
  · dsimp only [effects]
    rw [heffects]
    refine ⟨by simp, fun message htold => ?_⟩
    obtain rfl : failure = .internal message := by simpa using htold
    obtain ⟨_, hfailure⟩ := Request.of_toCall_eq_error hcall
    cases hfailure
  · obtain ⟨houtcome, hfailure⟩ := h.isUnforeseen_of_start hvalid hkey hstart
    dsimp only [effects]
    rw [heffects]
    refine ⟨fun entry hentry => ?_, fun message htold => hfailure message ?_⟩
    · obtain rfl := List.mem_singleton.mp hentry
      exact houtcome
    · simpa [rejected] using htold
  · dsimp only [effects]
    rw [haudited, htold]
    cases reply with
    | ok answer =>
      refine ⟨fun entry hentry => ?_, fun message htold => by simp [Gateway.resultOf] at htold⟩
      obtain rfl := List.mem_singleton.mp hentry
      have houtcome : Gateway.outcomeOf answer ∉
          [Outcome.invalidBreaker, .registryFailure, .policyFailure] := by
        unfold Gateway.outcomeOf
        split <;> decide
      exact houtcome
    | error cause =>
      obtain ⟨houtcome, hfailure⟩ := Rejection.isUnforeseen_delivery cause
      refine ⟨fun entry hentry => ?_, fun message htold => hfailure message ?_⟩
      · obtain rfl := List.mem_singleton.mp hentry
        exact houtcome
      · simpa [Gateway.resultOf] using htold
  · dsimp only [effects]
    rw [haudited]
    exact ⟨by simp, fun message h => absurd h (htold _)⟩

/-- What leaves can be built, unless it carries a secret that no header can hold. -/
theorem HasSources.ofOutgoing_eq_error_iff (h : session.HasSources c) (hvalid : c.IsValid)
    {event : Event} {out : Outgoing} (hout : out ∈ (session.step s event).1.forwarded)
    {failure : DeliveryFailure} :
    Post.ofOutgoing out = .error failure ↔
      (∃ secret, out.credential = some ⟨.bearer, secret⟩ ∧
          secret.text.toList.all Post.inHeader = false) ∧
        failure = .invalidRequest "credential is not a valid header" := by
  obtain ⟨request, -, server, body, hclears⟩ := ((forwarded_step session event).2 out).mp hout
  obtain ⟨written, hwritten, -, rfl⟩ :=
    hvalid.get?_registry_eq_some_iff.mp (h.registry ▸ hclears.found)
  obtain ⟨url, hurl⟩ := Post.exists_toolUrl (hvalid.serverParts hwritten).1 out.tool
  have hendpoint : out.endpoint = Text.trim written.endpoint := hclears.endpoint_eq
  exact Post.ofOutgoing_eq_error_iff (hendpoint ▸ hurl)

/-- No call of a server with a valid configuration fails for what the checks of the configuration
can see, as long as no record is added and no source fails. The log shows no unreadable breaker
settings and no failure of a source. Callers are told of an inner failure only where a stored
credential does not open under the key, or where a call cannot be built; and that is so only for a
bearer secret that no header can hold, because every tool has a URL. -/
theorem configured_run (hvalid : c.IsValid) (hkey : c.key lookup = .ok key)
    (address : SocketAddress) (sink : Option Audit.Sink)
    (hevents : ∀ event ∈ events, event.KeepsSources) :
    (∀ effects ∈ ((Server.ofConfig c address key sink).session.run (Server.settings c key)
        events).1,
      (∀ entry ∈ effects.audited,
        entry.details.outcome ∉ [.invalidBreaker, .registryFailure, .policyFailure]) ∧
      (∀ message, effects.told = .result (.error (.internal message)) →
        message = "stored credential could not be decrypted" ∨
          message = "upstream request could not be built") ∧
      ∀ out ∈ effects.forwarded, ∀ failure, Post.ofOutgoing out = .error failure ↔
        (∃ secret, out.credential = some ⟨.bearer, secret⟩ ∧
            secret.text.toList.all Post.inHeader = false) ∧
          failure = .invalidRequest "credential is not a valid header") ∧
      ∀ server ∈ c.servers, ∀ tool,
        ∃ url, Post.toolUrl (Config.registered server).endpoint tool = .ok url := by
  refine ⟨fun effects heffects => ?_, fun server hserver tool =>
    Post.exists_toolUrl (hvalid.serverParts hserver).1 tool⟩
  obtain ⟨i, hi⟩ := List.mem_iff_getElem?.mp heffects
  rw [getElem?_run_fst] at hi
  obtain ⟨event, -, rfl⟩ := Option.map_eq_some_iff.mp hi
  have hsources : ((Server.ofConfig c address key sink).session.reach (Server.settings c key) events
      i).HasSources c := hasSources_reach hevents address sink i
  obtain ⟨haudited, htold⟩ := hsources.report hvalid hkey event
  exact ⟨haudited, htold, fun out hout failure => hsources.ofOutgoing_eq_error_iff hvalid hout⟩

/-- A credential can be decoded and does not open: the checks let it pass, and the call that needs
it is rejected. A host beyond ASCII has URLs too. -/
theorem configured_run_of_foreign_credential :
    let keyText : String := "AAAAAAAAAAAAAAAAAAAAAAAAAAAAAAAAAAAAAAAAAAA="
    let c : Config := { Config.standard with
      servers := [⟨"s", " http://127.0.0.1:9100 ", .bearer, some " AAAA ", true, some " null "⟩,
        ⟨"off", "https://ü.de/v1", .none, none, false, none⟩]
      trust := ⟨[⟨"*", .auto, 0⟩], [], []⟩ }
    let key : CredentialKey := ⟨List.replicate 32 0, rfl⟩
    let event : Event := .call ⟨"me", "s", "echo", [0x7b, 0x7d]⟩ (fun _ => .ok ⟨200, .null⟩) ⟨0, 0⟩
    let run := (Server.ofConfig c ⟨.v4 ⟨127, 0, 0, 1⟩, 0, 8088⟩ (some key) none).session.run
      (Server.settings c (some key)) [event]
    c.IsValid ∧ c.key (fun _ => some keyText) = .ok (some key) ∧ event.KeepsSources ∧
      run.1.map (·.audited.map (·.details.outcome)) = [[.credentialFailure]] ∧
      (∀ effects ∈ run.1, ∀ message, effects.told = .result (.error (.internal message)) →
        message = "stored credential could not be decrypted" ∨
          message = "upstream request could not be built") ∧
      ∀ server ∈ c.servers,
        ∃ url, Post.toolUrl (Config.registered server).endpoint ".." = .ok url := by
  intro keyText c key event run
  have hvalid : c.IsValid := by decide +kernel +revert
  have hrecorded : run.1.map (·.audited.map (·.details.outcome)) = [[.credentialFailure]] := by
    decide +kernel +revert
  have hkey : c.key (fun _ => some keyText) = .ok (some key) := by
    have hblank : Text.trim keyText ≠ "" := by decide +kernel
    have hdecode : Text.Base64.decode? (Text.trim keyText) = some (List.replicate 32 0) := by
      decide +kernel
    rw [Config.key, Option.filter_some, if_pos (decide_eq_true hblank)]
    dsimp only
    rw [CredentialKey.ofBase64, hdecode]
    rfl
  have hevents : ∀ e ∈ [event], e.KeepsSources := fun e he => by
    obtain rfl := List.mem_singleton.mp he
    trivial
  obtain ⟨heffects, hurls⟩ := configured_run hvalid hkey ⟨.v4 ⟨127, 0, 0, 1⟩, 0, 8088⟩ none hevents
  exact ⟨hvalid, hkey, trivial, hrecorded, fun effects h => (heffects effects h).2.1,
    fun server hserver => hurls server hserver ".."⟩

end Session

end ToolGateway
