import ToolGateway.Proofs.Config.Entries
import ToolGateway.Proofs.Credential.Opening
import ToolGateway.Proofs.Text.Written

/-!
# What makes a configuration valid

A configuration is checked part by part and each entry of a list against those before it, and the
checks stop at the first fault. What they accept can be said without any order: the numbers lie
within their bounds, strangers are kept out, every entry is proper, and no two entries claim the
same key. `Config.accepts_in_any_order` says that these conditions, with one on the variable of the
key and one on the audit path, are all, so that the order of the entries decides nothing but which
fault is reported.
-/

namespace ToolGateway.Config

/-! ## What is asked of a configuration -/

/-- The numbers lie within their bounds, and no list is too long. -/
structure WithinBounds (c : Config) : Prop where
  body : 1 ≤ c.listener.maxBody ∧ c.listener.maxBody ≤ maxBodyBound
  rate : 1 ≤ c.rate.limit ∧ c.rate.limit ≤ maxRate
  window : windowBounds.1 ≤ c.rate.window ∧ c.rate.window ≤ windowBounds.2
  connectTimeout : 1 ≤ c.delivery.connectTimeout ∧ c.delivery.connectTimeout ≤ timeoutBound
  callTimeout : 1 ≤ c.delivery.callTimeout ∧ c.delivery.callTimeout ≤ timeoutBound
  timeouts : c.delivery.connectTimeout ≤ c.delivery.callTimeout
  answer : 1 ≤ c.delivery.maxAnswer ∧ c.delivery.maxAnswer ≤ maxAnswerBound
  callers : c.listener.callers.callers.length ≤ maxCallers
  servers : c.servers.length ≤ maxServers
  defaults : c.trust.defaults.length ≤ maxRows
  rules : c.trust.rules.length ≤ maxRows
  overrides : c.trust.overrides.length ≤ maxRows

/-- The address can be read, and only callers with tokens may come from another machine. There are
callers exactly where they are told apart by tokens. -/
structure Listener.Guarded (l : Listener) : Prop where
  address : ∃ address, l.address? = some address ∧
    (address.ip.isLoopback = true ∨ l.callers.mode = .bearerToken)
  callers : l.callers.callers ≠ [] ↔ l.callers.mode = .bearerToken

/-- A caller has an id without blanks at its ends and without colons, and a token without blanks
that is not too long. -/
structure CallerPasses (caller : Caller) : Prop where
  id_ne : caller.id ≠ ""
  id_trimmed : Text.trim caller.id = caller.id
  id_colon : ':' ∉ caller.id.toList
  token_ne : caller.token ≠ ""
  token_length : caller.token.utf8ByteSize ≤ maxTokenLength
  token_blank : ∀ ch ∈ caller.token.toList, Text.isBlank ch = false

/-- A label has some characters of those that labels have. -/
structure LabelPasses (label : String) : Prop where
  ne : label ≠ ""
  length : label.utf8ByteSize ≤ maxLabelLength
  chars : ∀ ch ∈ label.toList, inLabel ch = true

/-- An endpoint is a URL of the web that names a host and has no user, query or fragment. -/
def EndpointPasses (endpoint : String) : Prop :=
  ∃ u a, Url.parse? (Text.trim endpoint) = some u ∧ u.isWeb = true ∧ u.authority = some a ∧
    a.username = "" ∧ a.password = none ∧ u.query = none ∧ u.fragment = none

/-- There is a credential exactly where a scheme presents it, and it is Base64, but for blanks
around it. -/
def CredentialPasses (scheme : Scheme) (credential : Option String) : Prop :=
  (credential.isSome ↔ scheme ≠ .none) ∧
    ∀ stored ∈ credential, ∃ data, Text.trim stored = Text.Base64.encode data

/-- A tool server passes each check of its own. -/
structure ServerPasses (server : ToolServer) : Prop where
  label : LabelPasses server.label
  endpoint : EndpointPasses server.endpoint
  credential : CredentialPasses server.scheme server.credential
  breaker : Breaker.Settings.parse? server.breaker ≠ none

/-- Every entry passes its own checks. -/
structure EntriesPass (c : Config) : Prop where
  callers : ∀ caller ∈ c.listener.callers.callers, CallerPasses caller
  servers : ∀ server ∈ c.servers, ServerPasses server
  defaults : ∀ d ∈ c.trust.defaults, Text.trim d.pattern ≠ ""
  rules : ∀ row ∈ c.trust.rules, Text.trim row.1 ≠ "" ∧ Text.trim row.2.pattern ≠ ""
  overrides : ∀ o ∈ c.trust.overrides, Text.trim o.agent ≠ "" ∧ Text.trim o.tool ≠ ""

/-- No two entries have the same key. -/
structure KeysDiffer (c : Config) : Prop where
  labels : (c.servers.map ToolServer.label).Nodup
  ids : (c.listener.callers.callers.map Caller.id).Nodup
  tokens : (c.listener.callers.callers.map Caller.token).Nodup
  overrides : (c.trust.overrides.map fun o => (o.agent, o.tool)).Nodup

/-- A configuration is orderly: its numbers are within bounds, strangers are kept out, its entries
are proper and their keys differ, and it has an audit path just where audit records go to a file. -/
structure IsOrderly (c : Config) : Prop where
  bounds : c.WithinBounds
  guarded : c.listener.Guarded
  entries : c.EntriesPass
  keys : c.KeysDiffer
  auditPath : c.audit.path.isSome ↔ c.audit.sink = .file

/-- The variable of the key has the name of a variable, but for blanks around it. -/
structure NamesKey (c : Config) : Prop where
  ne : Text.trim c.keyVariable ≠ ""
  chars : ∀ ch ∈ (Text.trim c.keyVariable).toList, inVariableName ch = true

/-- A path is not blank, and neither the path, without blanks around, nor a part of it is too
long. -/
structure PathFits (path : String) : Prop where
  ne : Text.trim path ≠ ""
  length : (Text.trim path).utf8ByteSize ≤ maxPathLength
  parts : ∀ part ∈ (Text.trim path).toList.splitOn '/',
    (Text.Utf8.encodeChars part).length ≤ maxPartLength

/-- Configurations that differ in nothing but the order of their entries. -/
structure Reorders (c c' : Config) : Prop where
  bind : c'.listener.bind = c.listener.bind
  maxBody : c'.listener.maxBody = c.listener.maxBody
  mode : c'.listener.callers.mode = c.listener.callers.mode
  keyVariable : c'.keyVariable = c.keyVariable
  rate : c'.rate = c.rate
  delivery : c'.delivery = c.delivery
  audit : c'.audit = c.audit
  callers : c.listener.callers.callers.Perm c'.listener.callers.callers
  servers : c.servers.Perm c'.servers
  defaults : c.trust.defaults.Perm c'.trust.defaults
  rules : c.trust.rules.Perm c'.trust.rules
  overrides : c.trust.overrides.Perm c'.trust.overrides

/-! ## The checks one by one -/

/-- Entries that are judged by themselves and against those before them are without faults if and
only if each is proper by itself and none is at odds with one before it. -/
theorem faultsOfEach_eq_nil_iff {α : Type} {judge : List α → α → List Fault} {own : α → Prop}
    {R : α → α → Prop}
    (hjudge : ∀ earlier x, judge earlier x = [] ↔ own x ∧ ∀ y ∈ earlier, R y x)
    {earlier entries : List α} :
    faultsOfEach judge earlier entries = [] ↔
      (∀ x ∈ entries, own x) ∧ (∀ y ∈ earlier, ∀ x ∈ entries, R y x) ∧ entries.Pairwise R := by
  induction entries generalizing earlier with
  | nil => simp [faultsOfEach]
  | cons x entries ih =>
    rw [faultsOfEach, List.append_eq_nil_iff, hjudge, ih, List.pairwise_cons]
    simp only [List.forall_mem_cons]
    constructor
    · rintro ⟨⟨hown, hearlier⟩, hrest, ⟨hx, hbehind⟩, hpairs⟩
      exact ⟨⟨hown, hrest⟩, fun y hy => ⟨hearlier y hy, hbehind y hy⟩, hx, hpairs⟩
    · rintro ⟨⟨hown, hrest⟩, hearlier, hx, hpairs⟩
      exact ⟨⟨hown, fun y hy => (hearlier y hy).1⟩, hrest, ⟨hx, fun y hy => (hearlier y hy).2⟩,
        hpairs⟩

/-- The checks of a caller. -/
theorem callerFaults_eq_nil_iff {caller : Caller} :
    callerFaults caller = [] ↔ CallerPasses caller := by
  constructor
  · intro h
    obtain ⟨hne, hlength, hblank⟩ := token_of_callerFaults h
    simp only [callerFaults, List.append_eq_nil_iff, Fault.when_eq_nil, not_or,
      Decidable.not_not] at h
    obtain ⟨⟨⟨⟨⟨hid, htrimmed⟩, hcolon⟩, -⟩, -⟩, -⟩ := h
    exact ⟨htrimmed ▸ hid, htrimmed, hcolon, hne, hlength, hblank⟩
  · intro h
    have htoken : Text.trim caller.token = caller.token := Text.trim_eq_self h.token_blank
    have hblank : ¬ caller.token.toList.any Text.isBlank = true := by
      simpa using h.token_blank
    simp only [callerFaults, List.append_eq_nil_iff, Fault.when_eq_nil, not_or,
      Decidable.not_not, htoken, h.id_trimmed]
    exact ⟨⟨⟨⟨⟨h.id_ne, trivial⟩, h.id_colon⟩, h.token_ne⟩, Nat.not_lt.mpr h.token_length⟩,
      trivial, hblank⟩

/-- The checks of all callers. -/
theorem callersFaults_eq_nil_iff {cs : Callers} :
    callersFaults cs = [] ↔
      cs.callers.length ≤ maxCallers ∧ (cs.callers ≠ [] ↔ cs.mode = .bearerToken) ∧
        (∀ caller ∈ cs.callers, CallerPasses caller) ∧ (cs.callers.map Caller.id).Nodup ∧
        (cs.callers.map Caller.token).Nodup := by
  have hbehind (earlier : List Caller) (caller : Caller) :
      callerFaultsBehind earlier caller = [] ↔ CallerPasses caller ∧
        ∀ other ∈ earlier, other.id ≠ caller.id ∧ other.token ≠ caller.token := by
    simp only [callerFaultsBehind, List.append_eq_nil_iff, Fault.when_eq_nil, List.mem_map,
      callerFaults_eq_nil_iff, not_exists, not_and, and_assoc, forall_and]
  have hmode : (¬ (cs.mode = .localOnly ∧ cs.callers ≠ []) ∧
      ¬ (cs.mode = .bearerToken ∧ cs.callers = [])) ↔
        (cs.callers ≠ [] ↔ cs.mode = .bearerToken) := by
    cases cs.mode <;> simp
  unfold callersFaults
  split
  · next hmany => exact iff_of_false (by simp) fun h => absurd h.1 (Nat.not_le.mpr hmany)
  · next hfew =>
    rw [List.append_eq_nil_iff, List.append_eq_nil_iff, Fault.when_eq_nil, Fault.when_eq_nil,
      hmode, faultsOfEach_eq_nil_iff hbehind, List.pairwise_and_iff,
      List.nodup_iff_pairwise_ne, List.nodup_iff_pairwise_ne, List.pairwise_map, List.pairwise_map]
    simp [Nat.le_of_not_lt hfew]

/-- The checks of a listener. -/
theorem Listener.faults_eq_nil_iff {l : Listener} :
    l.faults = [] ↔ (1 ≤ l.maxBody ∧ l.maxBody ≤ maxBodyBound) ∧ callersFaults l.callers = [] ∧
      ∃ address, l.address? = some address ∧
        (address.ip.isLoopback = true ∨ l.callers.mode = .bearerToken) := by
  have hmode : l.callers.mode = .bearerToken ↔ l.callers.mode ≠ .localOnly := by
    cases l.callers.mode <;> simp
  unfold Listener.faults
  rw [List.append_eq_nil_iff, List.append_eq_nil_iff, Fault.when_eq_nil, Outside, not_or,
    Nat.not_lt, Nat.not_lt, and_assoc]
  cases l.address? with
  | none => simp
  | some address => simp [hmode, imp_iff_not_or]

/-- The checks of a rate. -/
theorem Rate.faults_eq_nil_iff {r : Rate} :
    r.faults = [] ↔ (1 ≤ r.limit ∧ r.limit ≤ maxRate) ∧
      windowBounds.1 ≤ r.window ∧ r.window ≤ windowBounds.2 := by
  simp only [Rate.faults, List.append_eq_nil_iff, Fault.when_eq_nil, Outside, not_or, Nat.not_lt,
    Nat.one_le_iff_ne_zero, ne_eq]

/-- The checks of how calls go out. -/
theorem Delivery.faults_eq_nil_iff {d : Delivery} :
    d.faults = [] ↔ (1 ≤ d.connectTimeout ∧ d.connectTimeout ≤ timeoutBound) ∧
      (1 ≤ d.callTimeout ∧ d.callTimeout ≤ timeoutBound) ∧ d.connectTimeout ≤ d.callTimeout ∧
      1 ≤ d.maxAnswer ∧ d.maxAnswer ≤ maxAnswerBound := by
  simp only [Delivery.faults, List.append_eq_nil_iff, Fault.when_eq_nil, Outside, not_or,
    Nat.not_lt, and_assoc]

/-- The checks of the variable of the key. -/
theorem keyVariableFaults_eq_nil_iff {c : Config} :
    keyVariableFaults c.keyVariable = [] ↔ c.NamesKey := by
  simp only [keyVariableFaults, List.append_eq_nil_iff, Fault.when_eq_nil, Decidable.not_not,
    List.all_eq_true]
  exact ⟨fun h => ⟨h.1, h.2⟩, fun h => ⟨h.ne, h.chars⟩⟩

/-! ## Paths -/

/-- A character has as many bytes as its size says. -/
theorem length_encodeChars_cons (c : Char) (cs : List Char) :
    (Text.Utf8.encodeChars (c :: cs)).length =
      c.utf8Size + (Text.Utf8.encodeChars cs).length := by
  simp [Text.Utf8.encodeChars]

/-- The longest part of a path is within a bound if every part is. The first one goes on from what
was begun. -/
theorem longestPart_le_iff {begun longest n : Nat} {cs : List Char} :
    longestPart begun longest cs ≤ n ↔ longest ≤ n ∧
      ∃ first rest, cs.splitOn '/' = first :: rest ∧
        begun + (Text.Utf8.encodeChars first).length ≤ n ∧
        ∀ part ∈ rest, (Text.Utf8.encodeChars part).length ≤ n := by
  induction cs generalizing begun longest with
  | nil =>
    have hlength : (Text.Utf8.encodeChars []).length = 0 := rfl
    rw [longestPart, Nat.max_le, and_comm]
    simp [List.splitOn_nil, hlength, and_assoc]
  | cons c cs ih =>
    rw [longestPart, List.splitOn_cons_eq_if_modifyHead]
    by_cases hc : c = '/'
    · rw [if_pos hc, if_pos (beq_iff_eq.mpr hc), ih, Nat.max_le]
      constructor
      · rintro ⟨⟨hbegun, hlongest⟩, first, rest, hsplit, hfirst, hrest⟩
        rw [Nat.zero_add] at hfirst
        refine ⟨hlongest, [], _, rfl, hbegun, ?_⟩
        rw [hsplit, List.forall_mem_cons]
        exact ⟨hfirst, hrest⟩
      · rintro ⟨hlongest, first, rest, hsplit, hfirst, hrest⟩
        obtain ⟨rfl, rfl⟩ := List.cons.inj hsplit
        obtain ⟨part, parts, hparts⟩ := List.exists_cons_of_ne_nil (List.splitOn_ne_nil '/' cs)
        rw [hparts, List.forall_mem_cons] at hrest
        exact ⟨⟨hfirst, hlongest⟩, part, parts, hparts, (Nat.zero_add _).symm ▸ hrest.1, hrest.2⟩
    · rw [if_neg hc, if_neg (mt beq_iff_eq.mp hc), ih]
      obtain ⟨part, parts, hparts⟩ := List.exists_cons_of_ne_nil (List.splitOn_ne_nil '/' cs)
      simp [hparts, length_encodeChars_cons, Nat.add_assoc, and_assoc]

/-- The checks of a path. -/
theorem pathFaults_eq_nil_iff {path : String} : pathFaults path = [] ↔ PathFits path := by
  have hparts : longestPart 0 0 (Text.trim path).toList ≤ maxPartLength ↔
      ∀ part ∈ (Text.trim path).toList.splitOn '/',
        (Text.Utf8.encodeChars part).length ≤ maxPartLength := by
    obtain ⟨part, parts, hsplit⟩ :=
      List.exists_cons_of_ne_nil (List.splitOn_ne_nil '/' (Text.trim path).toList)
    rw [longestPart_le_iff, hsplit]
    simp [and_assoc]
  simp only [pathFaults, lengthFaults, List.append_eq_nil_iff, ite_eq_right_iff,
    List.cons_ne_nil, imp_false, Nat.not_lt, hparts]
  exact ⟨fun h => ⟨h.1, h.2.1, h.2.2⟩, fun h => ⟨h.ne, h.length, h.parts⟩⟩

/-- The checks of where audit records go. -/
theorem AuditLog.faults_eq_nil_iff {a : AuditLog} :
    a.faults = [] ↔ (a.path.isSome ↔ a.sink = .file) ∧ ∀ path ∈ a.path, PathFits path := by
  obtain ⟨sink, path⟩ := a
  cases path with
  | none => cases sink <;> simp [AuditLog.faults]
  | some path => cases sink <;> simp [AuditLog.faults, pathFaults_eq_nil_iff]

/-! ## Tool servers and policy rows -/

/-- A fault of a tool server is left out exactly if its condition does not hold. -/
@[simp] theorem ServerFault.when_eq_nil (fault : ServerFault) (condition : Prop)
    [Decidable condition] : fault.when condition = [] ↔ ¬ condition := by
  by_cases h : condition <;> simp [ServerFault.when, h]

/-- The checks of a label. -/
theorem labelFaults_eq_nil_iff {label : String} : labelFaults label = [] ↔ LabelPasses label := by
  simp only [labelFaults, List.append_eq_nil_iff, Fault.when_eq_nil, Decidable.not_not,
    List.all_eq_true, Nat.not_lt]
  exact ⟨fun h => ⟨h.1.1, h.1.2, h.2⟩, fun h => ⟨⟨h.ne, h.length⟩, h.chars⟩⟩

/-- The checks of an endpoint. -/
theorem endpointFaults_eq_nil_iff {endpoint : String} :
    endpointFaults endpoint = [] ↔ EndpointPasses endpoint := by
  unfold endpointFaults EndpointPasses
  cases Url.parse? (Text.trim endpoint) with
  | none => simp
  | some u =>
    simp only [List.append_eq_nil_iff, ServerFault.when_eq_nil, Decidable.not_not,
      Option.some.injEq]
    constructor
    · rintro ⟨⟨⟨hweb, hhost⟩, huser⟩, hend⟩
      obtain ⟨a, ha⟩ := Option.ne_none_iff_exists'.mp hhost
      simp only [ha, Option.any_some, Bool.or_eq_true, decide_eq_true_eq, not_or,
        Decidable.not_not, Bool.not_eq_true, Option.isSome_eq_false_iff,
        Option.isNone_iff_eq_none] at huser hend
      exact ⟨u, a, rfl, hweb, ha, huser.1, huser.2, hend.1, hend.2⟩
    · rintro ⟨_, a, rfl, hweb, ha, hname, hpassword, hquery, hfragment⟩
      simp [hweb, ha, hname, hpassword, hquery, hfragment]

/-- The checks of a credential. -/
theorem credentialFaults_eq_nil_iff {scheme : Scheme} {credential : Option String} :
    credentialFaults scheme credential = [] ↔ CredentialPasses scheme credential := by
  unfold credentialFaults CredentialPasses
  cases credential with
  | none => cases scheme <;> simp
  | some stored =>
    simp only [Option.mem_some, forall_eq', ← CredentialKey.decodeStored_eq_ok_iff]
    cases hdecode : CredentialKey.decodeStored stored <;> cases scheme <;> simp [hdecode]

/-- The checks of all tool servers. -/
theorem serversFaults_eq_nil_iff {servers : List ToolServer} :
    serversFaults servers = [] ↔ servers.length ≤ maxServers ∧
      (∀ server ∈ servers, ServerPasses server) ∧ (servers.map ToolServer.label).Nodup := by
  have hserver (server : ToolServer) : serverFaults server = [] ↔ ServerPasses server := by
    simp only [serverFaults, List.append_eq_nil_iff, List.map_eq_nil_iff,
      ServerFault.when_eq_nil, labelFaults_eq_nil_iff, endpointFaults_eq_nil_iff,
      credentialFaults_eq_nil_iff]
    exact ⟨fun h => ⟨h.1, h.2.1.1, h.2.1.2, h.2.2⟩,
      fun h => ⟨h.label, ⟨h.endpoint, h.credential⟩, h.breaker⟩⟩
  have hbehind (earlier : List ToolServer) (server : ToolServer) :
      serverFaultsBehind earlier server = [] ↔
        ServerPasses server ∧ ∀ other ∈ earlier, other.label ≠ server.label := by
    simp only [serverFaultsBehind, List.append_eq_nil_iff, Fault.when_eq_nil, List.mem_map,
      hserver, not_exists, not_and]
  unfold serversFaults
  split
  · next hmany => exact iff_of_false (by simp) fun h => absurd h.1 (Nat.not_le.mpr hmany)
  · next hfew =>
    rw [faultsOfEach_eq_nil_iff hbehind, List.nodup_iff_pairwise_ne,
      List.pairwise_map]
    simp [Nat.le_of_not_lt hfew]

/-- The checks of the policy rows. -/
theorem Rows.faults_eq_nil_iff {r : Rows} :
    r.faults = [] ↔
      (r.defaults.length ≤ maxRows ∧ r.rules.length ≤ maxRows ∧ r.overrides.length ≤ maxRows) ∧
      (∀ d ∈ r.defaults, Text.trim d.pattern ≠ "") ∧
      (∀ row ∈ r.rules, Text.trim row.1 ≠ "" ∧ Text.trim row.2.pattern ≠ "") ∧
      (∀ o ∈ r.overrides, Text.trim o.agent ≠ "" ∧ Text.trim o.tool ≠ "") ∧
      (r.overrides.map fun o => (o.agent, o.tool)).Nodup := by
  have hbehind (earlier : List Trust.Override) (o : Trust.Override) :
      overrideFaultsBehind earlier o = [] ↔
        (Text.trim o.agent ≠ "" ∧ Text.trim o.tool ≠ "") ∧
          ∀ other ∈ earlier, (other.agent, other.tool) ≠ (o.agent, o.tool) := by
    simp [overrideFaultsBehind, blankFault, and_assoc]
  unfold Rows.faults
  split
  · next hmany => exact iff_of_false (by simp) fun h => by omega
  · next hfew =>
    rw [List.append_eq_nil_iff, List.append_eq_nil_iff, faultsOfEach_eq_nil_iff hbehind,
      List.nodup_iff_pairwise_ne, List.pairwise_map]
    simp only [not_or, Nat.not_lt] at hfew
    simp [blankFault, hfew, and_assoc]

/-! ## All together -/

/-- The order of the entries does not matter to what makes a configuration orderly. -/
theorem IsOrderly.of_reorders {c c' : Config} (h : c.IsOrderly) (hc : c.Reorders c') :
    c'.IsOrderly := by
  have haddress : c'.listener.address? = c.listener.address? := by
    rw [Listener.address?, hc.bind, Listener.address?]
  have hempty : c'.listener.callers.callers ≠ [] ↔ c.listener.callers.callers ≠ [] := by
    rw [ne_eq, ne_eq, ← List.length_eq_zero_iff, ← List.length_eq_zero_iff, hc.callers.length_eq]
  obtain ⟨bounds, guarded, entries, keys, auditPath⟩ := h
  constructor
  case bounds =>
    exact {
      body := hc.maxBody ▸ bounds.body
      rate := hc.rate ▸ bounds.rate
      window := hc.rate ▸ bounds.window
      connectTimeout := hc.delivery ▸ bounds.connectTimeout
      callTimeout := hc.delivery ▸ bounds.callTimeout
      timeouts := hc.delivery ▸ bounds.timeouts
      answer := hc.delivery ▸ bounds.answer
      callers := hc.callers.length_eq ▸ bounds.callers
      servers := hc.servers.length_eq ▸ bounds.servers
      defaults := hc.defaults.length_eq ▸ bounds.defaults
      rules := hc.rules.length_eq ▸ bounds.rules
      overrides := hc.overrides.length_eq ▸ bounds.overrides }
  case guarded =>
    constructor
    · rw [haddress, hc.mode]
      exact guarded.address
    · rw [hempty, hc.mode]
      exact guarded.callers
  case entries =>
    exact {
      callers := fun caller h => entries.callers caller (hc.callers.mem_iff.mpr h)
      servers := fun server h => entries.servers server (hc.servers.mem_iff.mpr h)
      defaults := fun d h => entries.defaults d (hc.defaults.mem_iff.mpr h)
      rules := fun row h => entries.rules row (hc.rules.mem_iff.mpr h)
      overrides := fun o h => entries.overrides o (hc.overrides.mem_iff.mpr h) }
  case keys =>
    exact {
      labels := (hc.servers.map _).nodup_iff.mp keys.labels
      ids := (hc.callers.map _).nodup_iff.mp keys.ids
      tokens := (hc.callers.map _).nodup_iff.mp keys.tokens
      overrides := (hc.overrides.map _).nodup_iff.mp keys.overrides }
  case auditPath => rw [hc.audit, auditPath]

/-- Reordering can be undone. -/
theorem Reorders.symm {c c' : Config} (h : c.Reorders c') : c'.Reorders c :=
  ⟨h.bind.symm, h.maxBody.symm, h.mode.symm, h.keyVariable.symm, h.rate.symm, h.delivery.symm,
    h.audit.symm, h.callers.symm, h.servers.symm, h.defaults.symm, h.rules.symm, h.overrides.symm⟩

/-- A configuration is valid if and only if it is orderly, the variable of the key has a name, and
the audit path, if there is one, fits. -/
theorem isValid_iff_isOrderly {c : Config} :
    c.IsValid ↔ c.IsOrderly ∧ c.NamesKey ∧ ∀ path ∈ c.audit.path, PathFits path := by
  simp only [IsValid, faults, List.append_eq_nil_iff, Listener.faults_eq_nil_iff,
    callersFaults_eq_nil_iff, keyVariableFaults_eq_nil_iff, Rate.faults_eq_nil_iff,
    Delivery.faults_eq_nil_iff, AuditLog.faults_eq_nil_iff, serversFaults_eq_nil_iff,
    Rows.faults_eq_nil_iff]
  constructor
  · rintro ⟨⟨⟨⟨⟨⟨⟨hbody, ⟨hfew, hmode, hcallers, hids, htokens⟩, haddress⟩, hkey⟩, hrate, hwindow⟩,
      hconnect, hcall, htimeouts, hanswer⟩, hsink, hpath⟩, hservers, hserver, hlabels⟩,
      ⟨hdefaults, hrules, hoverrides⟩, hdefault, hrule, hoverride, hpairs⟩
    exact ⟨⟨⟨hbody, hrate, hwindow, hconnect, hcall, htimeouts, hanswer, hfew, hservers,
      hdefaults, hrules, hoverrides⟩, ⟨haddress, hmode⟩,
      ⟨hcallers, hserver, hdefault, hrule, hoverride⟩, ⟨hlabels, hids, htokens, hpairs⟩, hsink⟩,
      hkey, hpath⟩
  · rintro ⟨⟨b, g, e, k, hsink⟩, hkey, hpath⟩
    exact ⟨⟨⟨⟨⟨⟨⟨b.body, ⟨b.callers, g.callers, e.callers, k.ids, k.tokens⟩, g.address⟩, hkey⟩,
      b.rate, b.window⟩, b.connectTimeout, b.callTimeout, b.timeouts, b.answer⟩, hsink, hpath⟩,
      b.servers, e.servers, k.labels⟩, ⟨b.defaults, b.rules, b.overrides⟩, e.defaults, e.rules,
      e.overrides, k.overrides⟩

/-- A valid configuration stays valid in any order of its entries. -/
theorem IsValid.of_reorders {c c' : Config} (h : c.IsValid) (hc : c.Reorders c') : c'.IsValid := by
  obtain ⟨horderly, ⟨hne, hchars⟩, hpath⟩ := isValid_iff_isOrderly.mp h
  refine isValid_iff_isOrderly.mpr ⟨horderly.of_reorders hc, ⟨?_, ?_⟩, ?_⟩
  · rwa [hc.keyVariable]
  · rwa [hc.keyVariable]
  · rwa [hc.audit]

/-- A configuration is valid if and only if it is orderly, the variable of the key has a name, and
the audit path fits, where there is one. So it is valid in every order of its callers, tool servers
and policy rows or in none. -/
theorem accepts_in_any_order (c : Config) :
    (c.IsValid ↔ c.IsOrderly ∧ c.NamesKey ∧ ∀ path ∈ c.audit.path, PathFits path) ∧
      ∀ c', c.Reorders c' → (c.IsValid ↔ c'.IsValid) :=
  ⟨isValid_iff_isOrderly, fun _ hc => ⟨fun h => h.of_reorders hc, fun h => h.of_reorders hc.symm⟩⟩

/-- Two callers, two tool servers and two rows of each kind may change places; the host of one tool
server is beyond ASCII. -/
theorem accepts_in_any_order_of_two :
    let callers := [Caller.mk "bot" "t1", ⟨"ann", "t2"⟩]
    let servers := [ToolServer.mk "b" "http://h:1" .none none true none,
      ⟨"a", " https://ü/x ", .bearer, some "AAAA", false, some "\x7b\x7d"⟩]
    let rows := Rows.mk [⟨"*", .auto, 0⟩, ⟨"rm", .block, -1⟩]
      [("w", ⟨"x*", .auto⟩), ("w", ⟨"*", .review⟩)]
      [⟨"bot", "rm", .auto⟩, ⟨"ann", "rm", .block⟩]
    let c := { standard with
      listener := { Listener.standard with callers := ⟨.bearerToken, callers⟩ }
      servers := servers
      trust := rows }
    let c' := { standard with
      listener := { Listener.standard with callers := ⟨.bearerToken, callers.reverse⟩ }
      servers := servers.reverse
      trust := ⟨rows.defaults.reverse, rows.rules.reverse, rows.overrides.reverse⟩ }
    c.IsValid ∧ c.Reorders c' ∧ c'.IsValid := by
  intro callers servers rows c c'
  have hvalid : c.IsValid := by decide +kernel
  have hreorders : c.Reorders c' :=
    ⟨rfl, rfl, rfl, rfl, rfl, rfl, rfl, (List.reverse_perm _).symm, (List.reverse_perm _).symm,
      (List.reverse_perm _).symm, (List.reverse_perm _).symm, (List.reverse_perm _).symm⟩
  exact ⟨hvalid, hreorders, ((accepts_in_any_order c).2 c' hreorders).mp hvalid⟩

/-- Being orderly is not enough: a configuration in which nothing else is at fault is refused for
the name of the variable of the key, and another one for a blank audit path. -/
theorem not_isValid_of_isOrderly :
    let unnamed := { standard with keyVariable := "A-B" }
    let pathless := { standard with audit := ⟨.file, some " "⟩ }
    (unnamed.IsOrderly ∧ ¬ unnamed.IsValid) ∧ pathless.IsOrderly ∧ ¬ pathless.IsValid := by
  intro unnamed pathless
  have hvalid : standard.IsValid := by decide +kernel
  have horderly : standard.IsOrderly := (isValid_iff_isOrderly.mp hvalid).1
  have hunnamed : ¬ unnamed.IsValid := by decide +kernel
  have hpathless : ¬ pathless.IsValid := by decide +kernel
  obtain ⟨bounds, guarded, entries, keys, -⟩ := horderly
  refine ⟨⟨⟨?_, guarded, ?_, ?_, by decide⟩, hunnamed⟩, ⟨?_, guarded, ?_, ?_, by decide⟩, hpathless⟩
  · exact { bounds with }
  · exact { entries with }
  · exact { keys with }
  · exact { bounds with }
  · exact { entries with }
  · exact { keys with }

end ToolGateway.Config
