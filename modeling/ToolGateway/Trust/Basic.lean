import ToolGateway.Json.Record

/-!
# Trust tiers and policy rows

A tier says what becomes of a call: only `auto` lets it pass. A policy has three kinds of rows:
overrides for one tool of one agent, rules of a workspace and defaults for everybody. Rules and
defaults choose tools by pattern.
-/

namespace ToolGateway.Trust

/-- What a policy says of a tool call. -/
inductive Tier where
  /-- The call is made without asking. -/
  | auto
  /-- The call needs approval and is refused. -/
  | review
  /-- The call is refused. -/
  | block
  deriving DecidableEq, Repr

/-- Whether a call of this tier is made. -/
def Tier.permits (t : Tier) : Bool := t == .auto

/-- The name of a tier. -/
def Tier.name : Tier → String
  | .auto => "auto"
  | .review => "review"
  | .block => "block"

/-- All tiers by name. -/
def Tier.named : List (String × Tier) := [Tier.auto, .review, .block].map fun t => (t.name, t)

/-- A rule of a workspace. -/
structure Rule where
  pattern : String
  tier : Tier
  deriving DecidableEq, Repr

/-- A default for everybody; lower priorities come first. -/
structure Default where
  pattern : String
  tier : Tier
  priority : Int
  deriving DecidableEq, Repr

/-- A tier for one tool of one agent. -/
structure Override where
  agent : String
  tool : String
  tier : Tier
  deriving DecidableEq, Repr

/-- The least priority, with 32 bits. -/
def minPriority : Int := -2147483648

/-- The greatest priority, with 32 bits. -/
def maxPriority : Int := 2147483647

/-! ## JSON form -/

/-- Reads a tier. -/
def Tier.ofDocument? (depth : Nat) : Json.Document → Option Tier := Json.Document.choice? depth named

/-- Reads a rule. -/
def Rule.ofDocument? (document : Json.Document) : Option Rule := do
  let r ← document.record? Json.maxDepth ["tool_pattern", "tier"]
  return ⟨← r.required "tool_pattern" (·.string?),
    ← r.required "tier" (Tier.ofDocument? (Json.maxDepth - 1))⟩

/-- Reads a default. -/
def Default.ofDocument? (document : Json.Document) : Option Default := do
  let r ← document.record? Json.maxDepth ["tool_pattern", "tier", "priority"]
  return ⟨← r.required "tool_pattern" (·.string?),
    ← r.required "tier" (Tier.ofDocument? (Json.maxDepth - 1)),
    ← r.required "priority" (·.integer? minPriority maxPriority)⟩

/-- Reads an override. -/
def Override.ofDocument? (document : Json.Document) : Option Override := do
  let r ← document.record? Json.maxDepth ["agent_id", "tool_name", "tier"]
  return ⟨← r.required "agent_id" (·.string?), ← r.required "tool_name" (·.string?),
    ← r.required "tier" (Tier.ofDocument? (Json.maxDepth - 1))⟩

/-- The JSON form of a tier. -/
def Tier.toJson (t : Tier) : Json := .string t.name

/-- The JSON form of a rule. -/
def Rule.toJson (r : Rule) : Json :=
  .object [("tool_pattern", .string r.pattern), ("tier", r.tier.toJson)]

/-- The JSON form of a default. -/
def Default.toJson (d : Default) : Json :=
  .object [("tool_pattern", .string d.pattern), ("tier", d.tier.toJson),
    ("priority", .integer d.priority)]

/-- The JSON form of an override. -/
def Override.toJson (o : Override) : Json :=
  .object [("agent_id", .string o.agent), ("tool_name", .string o.tool), ("tier", o.tier.toJson)]

end ToolGateway.Trust
