import ToolGateway.Glob
import ToolGateway.Trust.Basic

/-!
# Trust policies

A call is decided by the first source that says something: the override of the agent for exactly
this tool, then the first rule of the workspace whose pattern matches, then the matching default
of the least priority, the earliest among equals. Where nothing matches the call needs review. An
agent or workspace with an empty name counts as not named.

Each source may fail. A failure ends the decision, but only if the source is reached.
-/

namespace ToolGateway.Trust

/-- What is asked of a policy. -/
structure Question where
  tool : String
  agent : Option String
  workspace : Option String
  deriving DecidableEq, Repr

/-- Where the rows come from; each look-up yields its rows or the text of its failure. -/
structure Source where
  override : (agent tool : String) → Except String (Option Tier)
  rules : (workspace : String) → Except String (List Rule)
  defaults : Except String (List Default)

/-- The look-up that ended a decision, with the text of its failure. -/
inductive LookupFailure where
  | override (reason : String)
  | rules (reason : String)
  | defaults (reason : String)
  deriving DecidableEq, Repr

/-- The text of a failed look-up. -/
def LookupFailure.message : LookupFailure → String
  | .override reason => "agent override lookup failed: " ++ reason
  | .rules reason => "workspace trust rules lookup failed: " ++ reason
  | .defaults reason => "trust defaults lookup failed: " ++ reason

/-- A name that is given and not empty. -/
def named? (name : Option String) : Option String := name.filter (· ≠ "")

/-- The tier of the first rule that matches a tool. -/
def tierByRules (rules : List Rule) (tool : String) : Option Tier :=
  (rules.find? fun r => Glob.accepts r.pattern tool).map Rule.tier

/-- The tier of the matching default of the least priority, the earliest among equals. -/
def tierByDefaults (defaults : List Default) (tool : String) : Option Tier :=
  ((defaults.mergeSort fun a b => a.priority ≤ b.priority).find?
    fun d => Glob.accepts d.pattern tool).map Default.tier

/-- What the override of an agent says. -/
def Source.byAgent (s : Source) (q : Question) : Except LookupFailure (Option Tier) :=
  match named? q.agent with
  | none => .ok none
  | some agent => (s.override agent q.tool).mapError .override

/-- What the rules of a workspace say. -/
def Source.byWorkspace (s : Source) (q : Question) : Except LookupFailure (Option Tier) :=
  match named? q.workspace with
  | none => .ok none
  | some workspace =>
    ((s.rules workspace).mapError .rules).map (tierByRules · q.tool)

/-- What the defaults say; they always say something. -/
def Source.byDefaults (s : Source) (q : Question) : Except LookupFailure Tier :=
  (s.defaults.mapError .defaults).map fun rows => (tierByDefaults rows q.tool).getD .review

/-- The tier of a call. -/
def Source.decide (s : Source) (q : Question) : Except LookupFailure Tier := do
  match ← s.byAgent q with
  | some tier => return tier
  | none =>
    match ← s.byWorkspace q with
    | some tier => return tier
    | none => s.byDefaults q

/-! ## Policies held in memory -/

/-- The rows of a policy: overrides by agent and tool, rules by workspace, and defaults, the rules
and defaults in the order in which they were added. -/
structure Policy where
  overrides : Table (Table Tier)
  rules : Table (List Rule)
  defaults : List Default
  deriving Repr

namespace Policy

/-- The policy without rows. -/
def empty : Policy := ⟨[], [], []⟩

/-- Adds an override, which replaces an earlier one for the same agent and tool. -/
def addOverride (p : Policy) (o : Override) : Policy :=
  { p with overrides := Table.update p.overrides o.agent [] (·.insert o.tool o.tier) }

/-- Adds a rule behind those of its workspace. -/
def addRule (p : Policy) (workspace : String) (rule : Rule) : Policy :=
  { p with rules := Table.update p.rules workspace [] (· ++ [rule]) }

/-- Adds a default behind the others. -/
def addDefault (p : Policy) (row : Default) : Policy := { p with defaults := p.defaults ++ [row] }

/-- The override of an agent for a tool. -/
def overrideOf (p : Policy) (agent tool : String) : Option Tier :=
  (p.overrides.get? agent).bind (·.get? tool)

/-- The rules of a workspace. -/
def rulesOf (p : Policy) (workspace : String) : List Rule := (p.rules.get? workspace).getD []

/-- The sources that a policy in memory gives; they never fail. -/
def source (p : Policy) : Source where
  override agent tool := .ok (p.overrideOf agent tool)
  rules workspace := .ok (p.rulesOf workspace)
  defaults := .ok p.defaults

end Policy

/-- Why each source fails, while it does. -/
structure Outages where
  overrides : Option String
  rules : Option String
  defaults : Option String
  deriving DecidableEq, Repr

/-- No source fails. -/
def Outages.none : Outages := ⟨Option.none, Option.none, Option.none⟩

/-- What a source yields, or its failure while it fails. -/
def unlessDown {α : Type} (down : Option String) (found : Except String α) : Except String α :=
  match down with
  | some reason => .error reason
  | .none => found

/-- The sources of `s` while some of them fail. -/
def Source.during (s : Source) (outages : Outages) : Source where
  override agent tool := unlessDown outages.overrides (s.override agent tool)
  rules workspace := unlessDown outages.rules (s.rules workspace)
  defaults := unlessDown outages.defaults s.defaults

end ToolGateway.Trust
