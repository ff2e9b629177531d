import ToolGateway.Breaker.Settings
import ToolGateway.Config.Fault
import ToolGateway.Credential
import ToolGateway.Url.Parse

/-!
# Valid configurations

`Config.faults` lists what is wrong with a configuration, in the order in which faults are
reported; only the first one is. Each fault has a condition of its own, so a configuration is
valid exactly if none of the conditions holds.
-/

namespace ToolGateway.Config

/-- A fault, if a condition holds. -/
def Fault.when (fault : Fault) (condition : Prop) [Decidable condition] : List Fault :=
  if condition then [fault] else []

/-- Whether a number lies outside of its bounds. -/
abbrev Outside (low high n : Nat) : Prop := n < low ∨ high < n

/-- The faults of the entries of a list, each judged with those before it (the last one first). -/
def faultsOfEach {α : Type} (judge : (earlier : List α) → α → List Fault) (earlier : List α) :
    List α → List Fault
  | [] => []
  | x :: rest => judge earlier x ++ faultsOfEach judge (x :: earlier) rest

/-! ## Listener -/

/-- The greatest number of callers. -/
def maxCallers : Nat := 64

/-- The greatest length of a token, in bytes. -/
def maxTokenLength : Nat := 256

/-- The faults of a caller. -/
def callerFaults (c : Caller) : List Fault :=
  let token := Text.trim c.token
  Fault.callerId.when (Text.trim c.id = "" ∨ Text.trim c.id ≠ c.id) ++
    Fault.callerIdColon.when (':' ∈ c.id.toList) ++
    Fault.tokenMissing.when (token = "") ++
    Fault.tokenTooLong.when (maxTokenLength < token.utf8ByteSize) ++
    Fault.tokenBlank.when (token ≠ c.token ∨ token.toList.any Text.isBlank)

/-- The faults of a caller behind others. -/
def callerFaultsBehind (earlier : List Caller) (c : Caller) : List Fault :=
  callerFaults c ++ (Fault.callerIdTwice c.id).when (c.id ∈ earlier.map Caller.id) ++
    Fault.tokenTwice.when (c.token ∈ earlier.map Caller.token)

/-- The faults of all callers; too many are not looked at. -/
def callersFaults (cs : Callers) : List Fault :=
  if maxCallers < cs.callers.length then [.tooManyCallers]
  else
    Fault.callersWithoutTokens.when (cs.mode = .localOnly ∧ cs.callers ≠ []) ++
    Fault.tokensWithoutCallers.when (cs.mode = .bearerToken ∧ cs.callers = []) ++
    faultsOfEach callerFaultsBehind [] cs.callers

/-- The faults of a listener. -/
def Listener.faults (l : Listener) : List Fault :=
  Fault.bodyBound.when (Outside 1 maxBodyBound l.maxBody) ++ callersFaults l.callers ++
    match l.address? with
    | none => [.bind]
    | some address =>
      Fault.bindNotLocal.when (¬ address.ip.isLoopback ∧ l.callers.mode = .localOnly)

/-! ## Key, rate and delivery -/

/-- Whether a character may stand in the name of a variable. -/
def inVariableName (c : Char) : Bool := c.isAlphanum || c = '_'

/-- The faults of the variable of the key. -/
def keyVariableFaults (variableName : String) : List Fault :=
  let variableName := Text.trim variableName
  Fault.keyVariableMissing.when (variableName = "") ++
    Fault.keyVariableName.when (¬ variableName.toList.all inVariableName)

/-- The greatest number of calls in a window. -/
def maxRate : Nat := 100000

/-- The faults of a rate. -/
def Rate.faults (r : Rate) : List Fault :=
  Fault.rateZero.when (r.limit = 0) ++ Fault.rateTooLarge.when (maxRate < r.limit) ++
    Fault.window.when (Outside windowBounds.1 windowBounds.2 r.window)

/-- The faults of how calls go out. -/
def Delivery.faults (d : Delivery) : List Fault :=
  (Fault.timeout "forwarder.connect_timeout_ms").when (Outside 1 timeoutBound d.connectTimeout) ++
    (Fault.timeout "forwarder.request_timeout_ms").when (Outside 1 timeoutBound d.callTimeout) ++
    Fault.timeoutOrder.when (d.callTimeout < d.connectTimeout) ++
    Fault.answerBound.when (Outside 1 maxAnswerBound d.maxAnswer)

/-! ## Paths and the audit log -/

/-- The greatest length of a path, in bytes. -/
def maxPathLength : Nat := 4096

/-- The greatest length of a part of a path, in bytes. -/
def maxPartLength : Nat := 255

/-- The length of the longest part of a path, in bytes, behind a part that was begun and the
longest one before it. -/
def longestPart (begun longest : Nat) : List Char → Nat
  | [] => max begun longest
  | c :: rest =>
    if c = '/' then longestPart 0 (max begun longest) rest
    else longestPart (begun + c.utf8Size) longest rest

/-- The faults of a path that is not empty. -/
def lengthFaults (path : String) : List PathFault :=
  (if maxPathLength < path.utf8ByteSize then [.tooLong] else []) ++
    if maxPartLength < longestPart 0 0 path.toList then [.longPart] else []

/-- The faults of a written path; blanks around it do not count. -/
def pathFaults (path : String) : List PathFault :=
  (if Text.trim path = "" then [.empty] else []) ++ lengthFaults (Text.trim path)

/-- The faults of where audit records go. -/
def AuditLog.faults (a : AuditLog) : List Fault :=
  match a.sink, a.path with
  | .file, some path => (pathFaults path).map .auditPath
  | .file, none => [.auditPathMissing]
  | _, some _ => [.auditPathUnused]
  | _, none => []

/-! ## Tool servers -/

/-- The greatest number of tool servers. -/
def maxServers : Nat := 256

/-- The greatest length of a label, in bytes. -/
def maxLabelLength : Nat := 128

/-- Whether a character may stand in a label. -/
def inLabel (c : Char) : Bool := c.isAlphanum || c = '-' || c = '_' || c = '.'

/-- The faults of a label. -/
def labelFaults (label : String) : List Fault :=
  Fault.labelMissing.when (label = "") ++
    (Fault.labelTooLong label).when (maxLabelLength < label.utf8ByteSize) ++
    (Fault.labelCharacter label).when (¬ label.toList.all inLabel)

/-- A fault of a tool server, if a condition holds. -/
def ServerFault.when (fault : ServerFault) (condition : Prop) [Decidable condition] :
    List ServerFault :=
  if condition then [fault] else []

/-- The faults of an endpoint. -/
def endpointFaults (endpoint : String) : List ServerFault :=
  match Url.parse? (Text.trim endpoint) with
  | none => [.notUrl]
  | some u =>
    ServerFault.notWeb.when (¬ u.isWeb) ++ ServerFault.noHost.when (u.authority = none) ++
      ServerFault.hasUser.when
        (u.authority.any fun a => a.username ≠ "" || a.password.isSome) ++
      ServerFault.hasQuery.when (u.query.isSome ∨ u.fragment.isSome)

/-- The faults of a credential. -/
def credentialFaults (scheme : Scheme) (credential : Option String) : List ServerFault :=
  match scheme, credential with
  | .none, some _ => [.schemeMissing]
  | .none, none => []
  | scheme, none => [.credentialMissing scheme]
  | _, some stored =>
    match CredentialKey.decodeStored stored with
    | .ok _ => []
    | .error _ => [.credentialNotBase64]

/-- The faults of a tool server. -/
def serverFaults (s : ToolServer) : List Fault :=
  labelFaults s.label ++
    (endpointFaults s.endpoint ++ credentialFaults s.scheme s.credential ++
      ServerFault.breaker.when (Breaker.Settings.parse? s.breaker = none)).map (.server s.label)

/-- The faults of a tool server behind others. -/
def serverFaultsBehind (earlier : List ToolServer) (s : ToolServer) : List Fault :=
  serverFaults s ++ (Fault.labelTwice s.label).when (s.label ∈ earlier.map ToolServer.label)

/-- The faults of all tool servers; too many are not looked at. -/
def serversFaults (servers : List ToolServer) : List Fault :=
  if maxServers < servers.length then [.tooManyServers]
  else faultsOfEach serverFaultsBehind [] servers

/-! ## Policy rows -/

/-- The greatest number of rows of one kind. -/
def maxRows : Nat := 4096

/-- The fault of a field that is blank. -/
def blankFault (field value : String) : List Fault :=
  (Fault.rowBlank field).when (Text.trim value = "")

/-- The faults of an override behind others. -/
def overrideFaultsBehind (earlier : List Trust.Override) (o : Trust.Override) : List Fault :=
  blankFault "trust.agent_overrides.agent_id" o.agent ++
    blankFault "trust.agent_overrides.tool_name" o.tool ++
    (Fault.overrideTwice o.agent o.tool).when
      (earlier.any fun e => e.agent == o.agent && e.tool == o.tool)

/-- The faults of the rows of the policy; too many are not looked at. -/
def Rows.faults (r : Rows) : List Fault :=
  if maxRows < r.defaults.length ∨ maxRows < r.rules.length ∨ maxRows < r.overrides.length then
    [.tooManyRows]
  else
    r.defaults.flatMap (fun d => blankFault "trust.defaults.pattern" d.pattern) ++
    r.rules.flatMap (fun (workspace, rule) =>
      blankFault "trust.rules.workspace_id" workspace ++
        blankFault "trust.rules.pattern" rule.pattern) ++
    faultsOfEach overrideFaultsBehind [] r.overrides

/-! ## All together -/

/-- The faults of a configuration. -/
def faults (c : Config) : List Fault :=
  c.listener.faults ++ keyVariableFaults c.keyVariable ++ c.rate.faults ++ c.delivery.faults ++
    c.audit.faults ++ serversFaults c.servers ++ c.trust.faults

/-- Whether a configuration has no faults. -/
def IsValid (c : Config) : Prop := c.faults = []

instance (c : Config) : Decidable c.IsValid := inferInstanceAs (Decidable (_ = _))

end ToolGateway.Config
