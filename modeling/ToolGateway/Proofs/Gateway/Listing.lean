import ToolGateway.Proofs.Gateway.Configured
import ToolGateway.Proofs.Text.ByteOrder

/-!
# What is listed and what can be called

The list of tool servers and the look-up of a label read the same registry in different ways. Behind
a valid configuration both agree with what is written there, and so with each other: the list has
the entries that are switched on, in the order of their labels, and a call finds an entry by its
trimmed label, at the endpoint that is listed for it.
-/

namespace ToolGateway

/-- The tool servers of a configuration that are switched on, each with its endpoint. -/
def Config.listed (c : Config) : List (String × String) :=
  (c.servers.filter (·.enabled)).map fun entry => (entry.label, Text.trim entry.endpoint)

/-- An entry that is switched on is listed. -/
theorem Config.mem_listed {c : Config} {entry : ToolServer} (hentry : entry ∈ c.servers)
    (henabled : entry.enabled = true) : (entry.label, Text.trim entry.endpoint) ∈ c.listed :=
  List.mem_map.mpr ⟨entry, List.mem_filter.mpr ⟨hentry, henabled⟩, rfl⟩

namespace Session

variable {c : Config} {session : Session} {s : Gateway.Settings} {label : String}
  {entry : ToolServer}

/-! ## The list -/

/-- What a session lists that has the records of a configuration. -/
theorem HasSources.list_eq (h : session.HasSources c) :
    session.gateway.list =
      .ok ((c.registry.values.filter (·.enabled)).map fun record =>
        (record.label, record.endpoint)) := by
  rw [Gateway.list, h.registryOutage, h.registry]

/-- These are the entries that are switched on. -/
theorem perm_list (hvalid : c.IsValid) :
    ((c.registry.values.filter (·.enabled)).map fun record => (record.label, record.endpoint)).Perm
      c.listed := by
  have hvalues : c.registry.values.Perm (c.servers.map Config.registered) := by
    have h := hvalid.perm_registry.map Prod.snd
    rwa [List.map_map] at h
  have hlisted : c.listed = ((c.servers.map Config.registered).filter (·.enabled)).map
      fun record => (record.label, record.endpoint) := by
    rw [List.filter_map, List.map_map]
    rfl
  rw [hlisted]
  exact (hvalues.filter _).map _

/-- A record of the registry is there under its own label. -/
theorem label_of_mem_registry (hvalid : c.IsValid) {bound : String × ToolServer}
    (h : bound ∈ c.registry) : bound.2.label = bound.1 := by
  obtain ⟨entry, -, rfl⟩ := List.mem_map.mp (hvalid.perm_registry.mem_iff.mp h)
  rfl

/-- The labels of a list come in the order of their bytes. -/
theorem pairwise_list (hvalid : c.IsValid) :
    ((c.registry.values.filter (·.enabled)).map fun record =>
        (record.label, record.endpoint)).Pairwise fun first second =>
      Text.Utf8.encode first.1 < Text.Utf8.encode second.1 := by
  have hsorted : c.registry.values.Pairwise fun record record' => record.label < record'.label := by
    apply List.pairwise_map.mpr
    apply (Config.sorted_registry c).imp_of_mem
    intro first second hfirst hsecond hlt
    rw [label_of_mem_registry hvalid hfirst, label_of_mem_registry hvalid hsecond]
    exact hlt
  exact List.pairwise_map.mpr ((hsorted.filter _).imp Text.Utf8.encode_lt)

/-! ## The look-up -/

/-- A label without an entry is not found. -/
theorem HasSources.resolve_of_forall_ne (h : session.HasSources c) (hvalid : c.IsValid)
    (hlabel : ∀ entry ∈ c.servers, entry.label ≠ label) :
    session.gateway.resolve label = .error .serverNotFound := by
  have hnone : c.registry.get? label = none := by
    rw [Option.eq_none_iff_forall_ne_some]
    intro record hrecord
    obtain ⟨entry, hentry, hsame, -⟩ := hvalid.get?_registry_eq_some_iff.mp hrecord
    exact hlabel entry hentry hsame
  rw [Gateway.resolve, h.registryOutage, h.registry]
  dsimp only
  rw [hnone]

/-- The label of an entry that is switched off is rejected for it. -/
theorem HasSources.resolve_of_disabled (h : session.HasSources c) (hvalid : c.IsValid)
    (hentry : entry ∈ c.servers) (hdisabled : entry.enabled = false) :
    session.gateway.resolve entry.label = .error .serverDisabled := by
  have hfound : c.registry.get? entry.label = some (Config.registered entry) :=
    hvalid.get?_registry_eq_some_iff.mpr ⟨entry, hentry, rfl, rfl⟩
  rw [Gateway.resolve, h.registryOutage, h.registry]
  dsimp only
  rw [hfound]
  dsimp only
  rw [Config.registered_enabled, hdisabled, if_neg Bool.false_ne_true]

/-- The label of an entry that is switched on resolves to its record. -/
theorem HasSources.resolve_of_enabled (h : session.HasSources c) (hvalid : c.IsValid)
    (hentry : entry ∈ c.servers) (henabled : entry.enabled = true) :
    ∃ breaker, session.gateway.resolve entry.label = .ok (Config.registered entry, breaker) := by
  obtain ⟨breaker, hbreaker⟩ := Option.ne_none_iff_exists'.mp (hvalid.serverParts hentry).2.2
  have hfound : c.registry.get? entry.label = some (Config.registered entry) :=
    hvalid.get?_registry_eq_some_iff.mpr ⟨entry, hentry, rfl, rfl⟩
  refine ⟨breaker, ?_⟩
  rw [Gateway.resolve_eq_ok_iff, h.registry, Config.registered_enabled, Config.registered_breaker]
  exact ⟨h.registryOutage, hfound, henabled, hbreaker⟩

/-- Of the labels without an entry, with one that is switched off and with one that is switched on,
each is looked up in its own way. -/
theorem HasSources.resolve_cases (h : session.HasSources c) (hvalid : c.IsValid) (label : String) :
    ((∀ entry ∈ c.servers, entry.label ≠ label) ∧
        session.gateway.resolve label = .error .serverNotFound) ∨
      ∃ entry ∈ c.servers, entry.label = label ∧
        ((entry.enabled = false ∧ session.gateway.resolve label = .error .serverDisabled) ∨
          entry.enabled = true ∧
            ∃ breaker, session.gateway.resolve label = .ok (Config.registered entry, breaker)) := by
  by_cases hsome : ∃ entry ∈ c.servers, entry.label = label
  · right
    obtain ⟨entry, hentry, rfl⟩ := hsome
    refine ⟨entry, hentry, rfl, ?_⟩
    cases henabled : entry.enabled with
    | false => exact Or.inl ⟨rfl, h.resolve_of_disabled hvalid hentry henabled⟩
    | true => exact Or.inr ⟨rfl, h.resolve_of_enabled hvalid hentry henabled⟩
  · left
    have hnone : ∀ entry ∈ c.servers, entry.label ≠ label :=
      fun entry hentry hlabel => hsome ⟨entry, hentry, hlabel⟩
    exact ⟨hnone, h.resolve_of_forall_ne hvalid hnone⟩

/-- A label is not found exactly if it has no entry. -/
theorem HasSources.resolve_eq_serverNotFound_iff (h : session.HasSources c) (hvalid : c.IsValid) :
    session.gateway.resolve label = .error .serverNotFound ↔
      ∀ entry ∈ c.servers, entry.label ≠ label := by
  constructor
  · intro hresolve
    rcases h.resolve_cases hvalid label with
      ⟨hnone, -⟩ | ⟨entry, -, -, ⟨-, hother⟩ | ⟨-, breaker, hother⟩⟩
    · exact hnone
    · rw [hresolve] at hother
      cases hother
    · rw [hresolve] at hother
      cases hother
  · exact h.resolve_of_forall_ne hvalid

/-- It is rejected as switched off exactly if its entry is. -/
theorem HasSources.resolve_eq_serverDisabled_iff (h : session.HasSources c) (hvalid : c.IsValid) :
    session.gateway.resolve label = .error .serverDisabled ↔
      ∃ entry ∈ c.servers, entry.label = label ∧ entry.enabled = false := by
  constructor
  · intro hresolve
    rcases h.resolve_cases hvalid label with
      ⟨-, hother⟩ | ⟨entry, hentry, hlabel, ⟨hdisabled, -⟩ | ⟨-, breaker, hother⟩⟩
    · rw [hresolve] at hother
      cases hother
    · exact ⟨entry, hentry, hlabel, hdisabled⟩
    · rw [hresolve] at hother
      cases hother
  · rintro ⟨entry, hentry, rfl, hdisabled⟩
    exact h.resolve_of_disabled hvalid hentry hdisabled

/-! ## What a caller is told of it -/

/-- A call is rejected for its record exactly if its label does not resolve. -/
theorem start_fst_eq_error_iff (call : Call) {r : Rejection}
    (hr : r = .serverNotFound ∨ r = .serverDisabled) :
    (session.gateway.start s session.now call).1 = .error r ↔
      session.gateway.resolve call.label = .error r := by
  constructor
  · intro hstart
    rcases Gateway.of_start_eq_error hstart with hresolve | rfl | ⟨server, breaker, -, hprepare⟩
    · exact hresolve
    · simp at hr
    · rcases Gateway.of_prepare_eq_error hprepare with rfl | ⟨body, htrust⟩ | ⟨_, rfl⟩ | hopen
      · simp at hr
      · rcases Gateway.of_checkTrust_eq_error htrust with ⟨_, rfl⟩ | ⟨_, rfl⟩ <;>
          simp at hr
      · simp at hr
      · rcases Gateway.of_openCredential_eq_error hopen with rfl | rfl | ⟨_, rfl⟩ <;>
          simp at hr
  · intro hresolve
    rw [Gateway.start_of_resolve_eq_error hresolve]

variable {event : Event} {request : Request}

/-- The caller of a call whose names are not blank is told so exactly then. -/
theorem told_failure_iff {r : Rejection} (hr : r = .serverNotFound ∨ r = .serverDisabled)
    (hrequest : event.request? = some request) (hlabel : Text.trim request.label ≠ "")
    (htool : Text.trim request.tool ≠ "") :
    (session.step s event).1.told = .result (.error r.failure) ↔
      session.gateway.resolve (Text.trim request.label) = .error r := by
  let call : Call := ⟨request.caller, _, _, request.body, hlabel, htool⟩
  have hcall : request.toCall = .ok call :=
    Request.toCall_eq_ok_iff.mpr ⟨hlabel, htool, rfl, rfl, rfl, rfl⟩
  have hreply (cause : DeliveryFailure) : (Rejection.delivery cause).failure ≠ r.failure := by
    rcases hr with rfl | rfl <;> cases cause <;> simp [Rejection.failure]
  have hfailure {r' : Rejection} (h : r'.failure = r.failure) : r' = r := by
    rcases hr with rfl | rfl
    · cases r' with
      | serverNotFound => rfl
      | delivery cause => exact absurd h (hreply cause)
      | credentialUnreadable cause => cases cause <;> cases h
      | _ => cases h
    · cases r' with
      | serverDisabled => rfl
      | delivery cause => exact absurd h (hreply cause)
      | credentialUnreadable cause => cases cause <;> cases h
      | _ => simp [Rejection.failure] at h
  rw [told_error_iff hrequest hcall hreply, ← start_fst_eq_error_iff (s := s) call hr]
  constructor
  · rintro ⟨r', hstart, h⟩
    rwa [hfailure h] at hstart
  · intro hstart
    exact ⟨r, hstart, rfl⟩

/-- A request that leaves goes to the endpoint of the record that its label resolves to. -/
theorem endpoint_of_forwarded {record : ToolServer} {breaker : Breaker.Settings} {out : Outgoing}
    (hrequest : event.request? = some request)
    (hresolve : session.gateway.resolve (Text.trim request.label) = .ok (record, breaker))
    (hout : out ∈ (session.step s event).1.forwarded) :
    out.label = record.label ∧ out.endpoint = record.endpoint := by
  obtain ⟨request', hrequest', server, body, hclears⟩ :=
    ((forwarded_step session event).2 out).mp hout
  obtain rfl : request = request' := Option.some.inj (hrequest.symm.trans hrequest')
  obtain ⟨-, hfound, -, -⟩ := Gateway.resolve_eq_ok_iff.mp hresolve
  obtain rfl : record = server := Option.some.inj (hfound.symm.trans hclears.found)
  exact ⟨hclears.label_eq, hclears.endpoint_eq⟩

/-- Listing and calling agree with a valid configuration, and so with each other, in every run of a
gateway with its registry in which no record is added and no source fails. The registry has one
record for each entry. The list has the entries that are switched on, each with its trimmed
endpoint, in the order of the bytes of their labels, so that no label comes twice. Take a call whose
names are not blank. It is turned away as one to an unknown tool server exactly if its trimmed label
has no entry, and as one to a tool server that is switched off exactly if its entry is. Otherwise
its label resolves to a record with the endpoint that is listed for it, and what leaves goes there.
A call with a blank label is turned away for that before anything is looked up. -/
theorem lists_what_it_calls (hvalid : c.IsValid) (policy : Trust.Policy) {events : List Event}
    (hevents : ∀ event ∈ events, event.KeepsSources) :
    let later := ((Session.new (.new c.registry policy)).run s events).2
    later.gateway.registry.Perm
        (c.servers.map fun entry => (entry.label, Config.registered entry)) ∧
      ∃ listing, later.gateway.list = .ok listing ∧
        listing.Perm c.listed ∧
        (listing.Pairwise fun first second =>
          Text.Utf8.encode first.1 < Text.Utf8.encode second.1) ∧
        ∀ event request, event.request? = some request →
          let label := Text.trim request.label
          let effects := (later.step s event).1
          (label ≠ "" → Text.trim request.tool ≠ "" →
            (effects.told = .result (.error (.notFound "server not found")) ↔
              ∀ entry ∈ c.servers, entry.label ≠ label) ∧
            (effects.told = .result (.error (.invalid "server is disabled")) ↔
              ∃ entry ∈ c.servers, entry.label = label ∧ entry.enabled = false) ∧
            (effects.told ≠ .result (.error (.notFound "server not found")) →
              effects.told ≠ .result (.error (.invalid "server is disabled")) →
              ∃ record breaker, later.gateway.resolve label = .ok (record, breaker) ∧
                (label, record.endpoint) ∈ listing ∧
                ∀ out ∈ effects.forwarded, out.label = label ∧ out.endpoint = record.endpoint)) ∧
          (label = "" →
            effects = ⟨[], [], .result (.error (.invalid "server label is required"))⟩) := by
  intro later
  have hsources : later.HasSources c := by
    have h : ((Session.new (.new c.registry policy)).reach s events events.length).HasSources c :=
      HasSources.reach ⟨rfl, rfl, rfl⟩ hevents events.length
    rwa [reach_of_length_le (Nat.le_refl _)] at h
  refine ⟨hsources.registry ▸ hvalid.perm_registry, _, hsources.list_eq, perm_list hvalid,
    pairwise_list hvalid, ?_⟩
  intro event request hrequest label effects
  constructor
  · intro hlabel htool
    have hnotFound : effects.told = .result (.error Rejection.serverNotFound.failure) ↔
        later.gateway.resolve label = .error .serverNotFound :=
      told_failure_iff (Or.inl rfl) hrequest hlabel htool
    have hdisabled : effects.told = .result (.error Rejection.serverDisabled.failure) ↔
        later.gateway.resolve label = .error .serverDisabled :=
      told_failure_iff (Or.inr rfl) hrequest hlabel htool
    refine ⟨hnotFound.trans (hsources.resolve_eq_serverNotFound_iff hvalid),
      hdisabled.trans (hsources.resolve_eq_serverDisabled_iff hvalid), ?_⟩
    intro hfound henabled
    rcases hsources.resolve_cases hvalid label with
      ⟨-, hresolve⟩ | ⟨entry, hentry, hentryLabel, ⟨-, hresolve⟩ | ⟨hon, breaker, hresolve⟩⟩
    · exact absurd (hnotFound.mpr hresolve) hfound
    · exact absurd (hdisabled.mpr hresolve) henabled
    · refine ⟨Config.registered entry, breaker, hresolve, ?_, ?_⟩
      · rw [(perm_list hvalid).mem_iff, ← hentryLabel, Config.registered_endpoint]
        exact Config.mem_listed hentry hon
      · intro out hout
        obtain ⟨houtLabel, hendpoint⟩ := endpoint_of_forwarded hrequest hresolve hout
        exact ⟨houtLabel.trans hentryLabel, hendpoint⟩
  · intro hblank
    have hcall : request.toCall = .error (.invalid "server label is required") := dif_pos hblank
    dsimp only [effects]
    rw [step_of_toCall_eq_error hrequest hcall]

/-- An entry is listed and called at its trimmed endpoint. The label of another one, which is
switched off, may be written with blanks, and a label that differs in capitals is unknown. -/
theorem lists_what_it_calls_of_disabled_entry :
    let c : Config := { Config.standard with
      servers := [⟨"z", " http://127.0.0.1:9100 ", .none, none, true, none⟩,
        ⟨"off", "http://127.0.0.1:9101", .none, none, false, none⟩]
      trust := ⟨[⟨"*", .auto, 0⟩], [], []⟩ }
    let s : Gateway.Settings := Server.settings c none
    let later := ((Session.new (.new c.registry c.policy)).run s [.advance Time.second]).2
    let call (label : String) : Event :=
      .call ⟨"me", label, "echo", [0x7b, 0x7d]⟩ (fun _ => .ok ⟨200, .null⟩) ⟨0, 0⟩
    c.IsValid ∧
      (∃ listing, later.gateway.list = .ok listing ∧ ("z", "http://127.0.0.1:9100") ∈ listing) ∧
      (later.step s (call " off ")).1.told = .result (.error (.invalid "server is disabled")) ∧
      (later.step s (call "Z")).1.told = .result (.error (.notFound "server not found")) := by
  intro c s later call
  have hvalid : c.IsValid := by decide +kernel +revert
  have hevents : ∀ event ∈ [Event.advance Time.second], event.KeepsSources := by
    intro event hevent
    obtain rfl := List.mem_singleton.mp hevent
    trivial
  obtain ⟨-, listing, hlist, hperm, -, hcalls⟩ :=
    lists_what_it_calls (s := s) hvalid c.policy hevents
  refine ⟨hvalid, ⟨listing, hlist, ?_⟩, ?_, ?_⟩
  · have hendpoint : Text.trim " http://127.0.0.1:9100 " = "http://127.0.0.1:9100" := by
      decide +kernel
    rw [hperm.mem_iff, ← hendpoint]
    simp [Config.listed, c]
  · apply ((hcalls (call " off ") _ rfl).1 (by decide +kernel) (by decide +kernel)).2.1.mpr
    exact ⟨⟨"off", "http://127.0.0.1:9101", .none, none, false, none⟩, by simp [c],
      by decide +kernel, rfl⟩
  · apply ((hcalls (call "Z") _ rfl).1 (by decide +kernel) (by decide +kernel)).1.mpr
    have hlabel : Text.trim "Z" = "Z" := by decide +kernel
    simp [c, hlabel]

/-- A blank label has no entry either, but a call with it is not turned away for that. -/
theorem lists_what_it_calls_not_of_blank_label :
    let c : Config := { Config.standard with
      servers := [⟨"s", "http://127.0.0.1:9100", .none, none, true, none⟩] }
    let request : Request := ⟨"me", " ", "echo", [0x7b, 0x7d]⟩
    let event : Event := .call request (fun _ => .ok ⟨200, .null⟩) ⟨0, 0⟩
    let effects := ((Session.new (.new c.registry c.policy)).step (Server.settings c none) event).1
    c.IsValid ∧ Text.trim request.tool ≠ "" ∧
      ¬ (effects.told = .result (.error (.notFound "server not found")) ↔
        ∀ entry ∈ c.servers, entry.label ≠ Text.trim request.label) := by
  intro c request event effects
  have hvalid : c.IsValid := by decide +kernel +revert
  refine ⟨hvalid, by decide +kernel, ?_⟩
  intro hagrees
  have hblank : Text.trim " " = "" := by decide +kernel
  have hentries : ∀ entry ∈ c.servers, entry.label ≠ Text.trim request.label := by
    simp [c, request, hblank]
  have htold := hagrees.mpr hentries
  have hcall : request.toCall = .error (.invalid "server label is required") := dif_pos hblank
  dsimp only [effects] at htold
  rw [step_of_toCall_eq_error rfl hcall] at htold
  cases htold

end Session

end ToolGateway
