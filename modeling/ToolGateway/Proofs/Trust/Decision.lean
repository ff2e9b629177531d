import ToolGateway.Proofs.Trust.Precedence

/-!
# What decides a question

A question goes to up to three look-ups in a fixed order. The first one that fails or says something
decides it, so a look-up behind that one is not made, and neither its rows nor its failure count. A
call is let through only because a row that was looked up says so.
-/

namespace ToolGateway.Trust

/-- A name is given to a question; an empty one is not. -/
def IsGiven (name : Option String) (given : String) : Prop := name = some given ∧ given ≠ ""

variable {name : Option String} {given : String}

/-- A name counts if it is given. -/
theorem named?_eq_some_iff : named? name = some given ↔ IsGiven name given := by
  simp [named?, IsGiven, Option.filter_eq_some_iff]

/-- Without such a name nothing is looked up. -/
theorem named?_eq_none_iff : named? name = none ↔ ∀ given, ¬ IsGiven name given := by
  simp only [Option.eq_none_iff_forall_ne_some, ne_eq, named?_eq_some_iff]

/-- A name is given once. -/
theorem IsGiven.unique {given' : String} (h : IsGiven name given) (h' : IsGiven name given') :
    given = given' :=
  Option.some.inj (h.1.symm.trans h'.1)

/-- A look-up that can be made in a source. -/
inductive Lookup where
  | override (agent tool : String)
  | rules (workspace : String)
  | defaults
  deriving DecidableEq, Repr

namespace Source

/-- No override is for a question: it names no agent, or none is found. -/
def NoOverride (s : Source) (q : Question) : Prop :=
  ∀ agent, IsGiven q.agent agent → s.override agent q.tool = .ok none

/-- No rule is for a question: it names no workspace, or none of the rules found is for the tool. -/
def NoRule (s : Source) (q : Question) : Prop :=
  ∀ workspace, IsGiven q.workspace workspace →
    ∃ rules, s.rules workspace = .ok rules ∧ ∀ r ∈ rules, ¬ r.Matches q.tool

/-- What a source decides on a question. -/
inductive Decides (s : Source) (q : Question) : Except LookupFailure Tier → Prop
  /-- The look-up of the agent's override fails. -/
  | overrideFails {agent reason : String} (given : IsGiven q.agent agent)
      (failed : s.override agent q.tool = .error reason) : Decides s q (.error (.override reason))
  /-- The agent's override decides. -/
  | override {agent : String} {tier : Tier} (given : IsGiven q.agent agent)
      (found : s.override agent q.tool = .ok (some tier)) : Decides s q (.ok tier)
  /-- The look-up of the workspace's rules fails. -/
  | rulesFail {workspace reason : String} (no_override : s.NoOverride q)
      (given : IsGiven q.workspace workspace) (failed : s.rules workspace = .error reason) :
      Decides s q (.error (.rules reason))
  /-- The workspace's first rule that is for the tool decides. -/
  | rule {workspace : String} {rules : List Rule} {r : Rule} (no_override : s.NoOverride q)
      (given : IsGiven q.workspace workspace) (found : s.rules workspace = .ok rules)
      (first : FirstRule rules q.tool r) : Decides s q (.ok r.tier)
  /-- The look-up of the defaults fails. -/
  | defaultsFail {reason : String} (no_override : s.NoOverride q) (no_rule : s.NoRule q)
      (failed : s.defaults = .error reason) : Decides s q (.error (.defaults reason))
  /-- The default of the least priority and the least place that is for the tool decides. -/
  | default {rows : List Default} {d : Default} (no_override : s.NoOverride q)
      (no_rule : s.NoRule q) (found : s.defaults = .ok rows) (least : LeastDefault rows q.tool d) :
      Decides s q (.ok d.tier)
  /-- Nothing is for the tool. -/
  | review {rows : List Default} (no_override : s.NoOverride q) (no_rule : s.NoRule q)
      (found : s.defaults = .ok rows) (no_default : ∀ d ∈ rows, ¬ d.Matches q.tool) :
      Decides s q (.ok .review)

/-- A look-up is made for a question: those before it found nothing. -/
inductive Asks (s : Source) (q : Question) : Lookup → Prop
  | override {agent : String} (given : IsGiven q.agent agent) : Asks s q (.override agent q.tool)
  | rules {workspace : String} (no_override : s.NoOverride q)
      (given : IsGiven q.workspace workspace) : Asks s q (.rules workspace)
  | defaults (no_override : s.NoOverride q) (no_rule : s.NoRule q) : Asks s q .defaults

/-- Two sources answer a look-up alike, be it with rows or with a failure. -/
def SameAt (s s' : Source) : Lookup → Prop
  | .override agent tool => s.override agent tool = s'.override agent tool
  | .rules workspace => s.rules workspace = s'.rules workspace
  | .defaults => s.defaults = s'.defaults

/-- A look-up yields a row that is for a tool and has a tier. -/
def Yields (s : Source) (tool : String) (tier : Tier) : Lookup → Prop
  | .override agent tool' => tool' = tool ∧ s.override agent tool' = .ok (some tier)
  | .rules workspace =>
    ∃ rules, s.rules workspace = .ok rules ∧ ∃ r ∈ rules, r.Matches tool ∧ r.tier = tier
  | .defaults => ∃ rows, s.defaults = .ok rows ∧ ∃ d ∈ rows, d.Matches tool ∧ d.tier = tier

variable {s s' : Source} {q : Question}

/-! ## The single look-ups -/

/-- The override of the agent that is given is looked up. -/
theorem byAgent_of_given (h : IsGiven q.agent given) :
    s.byAgent q = (s.override given q.tool).mapError .override := by
  rw [byAgent, named?_eq_some_iff.mpr h]

/-- The rules of the workspace that is given are looked up. -/
theorem byWorkspace_of_given (h : IsGiven q.workspace given) :
    s.byWorkspace q = ((s.rules given).mapError .rules).map (tierByRules · q.tool) := by
  rw [byWorkspace, named?_eq_some_iff.mpr h]

/-- No override is found. -/
theorem byAgent_of_noOverride (h : s.NoOverride q) : s.byAgent q = .ok none := by
  cases hagent : named? q.agent with
  | none => rw [byAgent, hagent]
  | some agent =>
    have hgiven := named?_eq_some_iff.mp hagent
    rw [byAgent_of_given hgiven, h agent hgiven]
    rfl

/-- No rule is found. -/
theorem byWorkspace_of_noRule (h : s.NoRule q) : s.byWorkspace q = .ok none := by
  cases hworkspace : named? q.workspace with
  | none => rw [byWorkspace, hworkspace]
  | some workspace =>
    have hgiven := named?_eq_some_iff.mp hworkspace
    obtain ⟨rules, hrules, hnone⟩ := h workspace hgiven
    rw [byWorkspace_of_given hgiven, hrules, ← tierByRules_eq_none_iff.mpr hnone]
    rfl

/-- The defaults that are found say `review` where none of them is for the tool. -/
theorem byDefaults_of_ok {rows : List Default} (h : s.defaults = .ok rows) :
    s.byDefaults q = .ok ((tierByDefaults rows q.tool).getD .review) := by
  rw [byDefaults, h]
  rfl

/-! ## Decisions -/

/-- A failed look-up by agent ends a decision, and an override decides. -/
theorem decide_of_byAgent {found : Except LookupFailure Tier}
    (h : s.byAgent q = found.map some) : s.decide q = found := by
  rw [decide, h]
  cases found <;> rfl

/-- Without an override, so do a failed look-up by workspace and a rule. -/
theorem decide_of_byWorkspace {found : Except LookupFailure Tier} (hagent : s.NoOverride q)
    (h : s.byWorkspace q = found.map some) : s.decide q = found := by
  rw [decide, byAgent_of_noOverride hagent, h]
  cases found <;> rfl

/-- Without a rule either, the defaults decide. -/
theorem decide_of_noRule (hagent : s.NoOverride q) (hworkspace : s.NoRule q) :
    s.decide q = s.byDefaults q := by
  rw [decide, byAgent_of_noOverride hagent, byWorkspace_of_noRule hworkspace]
  rfl

/-- What a source decides is what comes out. -/
theorem Decides.decide_eq {result : Except LookupFailure Tier} (h : s.Decides q result) :
    s.decide q = result := by
  cases h with
  | overrideFails given failed =>
    apply decide_of_byAgent
    rw [byAgent_of_given given, failed]
    rfl
  | override given found =>
    apply decide_of_byAgent
    rw [byAgent_of_given given, found]
    rfl
  | rulesFail no_override given failed =>
    apply decide_of_byWorkspace no_override
    rw [byWorkspace_of_given given, failed]
    rfl
  | rule no_override given found first =>
    apply decide_of_byWorkspace no_override
    rw [byWorkspace_of_given given, found]
    exact congrArg Except.ok (tierByRules_eq_some_iff.mpr ⟨_, first, rfl⟩)
  | defaultsFail no_override no_rule failed =>
    rw [decide_of_noRule no_override no_rule, byDefaults, failed]
    rfl
  | default no_override no_rule found least =>
    rw [decide_of_noRule no_override no_rule, byDefaults_of_ok found,
      tierByDefaults_eq_some_iff.mpr ⟨_, least, rfl⟩, Option.getD_some]
  | review no_override no_rule found no_default =>
    rw [decide_of_noRule no_override no_rule, byDefaults_of_ok found,
      tierByDefaults_eq_none_iff.mpr no_default, Option.getD_none]

/-- Where nothing is found before, the defaults decide or fail. -/
theorem exists_decides_of_noRule (hagent : s.NoOverride q) (hworkspace : s.NoRule q) :
    ∃ result, s.Decides q result := by
  cases hdefaults : s.defaults with
  | error reason => exact ⟨_, Decides.defaultsFail hagent hworkspace hdefaults⟩
  | ok rows =>
    cases htier : tierByDefaults rows q.tool with
    | none =>
      exact ⟨_, Decides.review hagent hworkspace hdefaults (tierByDefaults_eq_none_iff.mp htier)⟩
    | some tier =>
      obtain ⟨d, hleast, -⟩ := tierByDefaults_eq_some_iff.mp htier
      exact ⟨_, Decides.default hagent hworkspace hdefaults hleast⟩

/-- Where no override is found, the rules decide or fail, or else the defaults do. -/
theorem exists_decides_of_noOverride (hagent : s.NoOverride q) : ∃ result, s.Decides q result := by
  cases hworkspace : named? q.workspace with
  | none =>
    have hnone := named?_eq_none_iff.mp hworkspace
    exact exists_decides_of_noRule hagent fun workspace hgiven => absurd hgiven (hnone workspace)
  | some workspace =>
    have hgiven := named?_eq_some_iff.mp hworkspace
    cases hrules : s.rules workspace with
    | error reason => exact ⟨_, Decides.rulesFail hagent hgiven hrules⟩
    | ok rules =>
      cases htier : tierByRules rules q.tool with
      | none =>
        have hnone := tierByRules_eq_none_iff.mp htier
        exact exists_decides_of_noRule hagent fun workspace' hgiven' =>
          ⟨rules, hgiven.unique hgiven' ▸ hrules, hnone⟩
      | some tier =>
        obtain ⟨r, hfirst, -⟩ := tierByRules_eq_some_iff.mp htier
        exact ⟨_, Decides.rule hagent hgiven hrules hfirst⟩

/-- Every question is decided. -/
theorem exists_decides (s : Source) (q : Question) : ∃ result, s.Decides q result := by
  cases hagent : named? q.agent with
  | none =>
    have hnone := named?_eq_none_iff.mp hagent
    exact exists_decides_of_noOverride fun agent hgiven => absurd hgiven (hnone agent)
  | some agent =>
    have hgiven := named?_eq_some_iff.mp hagent
    cases hoverride : s.override agent q.tool with
    | error reason => exact ⟨_, Decides.overrideFails hgiven hoverride⟩
    | ok found =>
      cases found with
      | none =>
        exact exists_decides_of_noOverride fun agent' hgiven' =>
          hgiven.unique hgiven' ▸ hoverride
      | some tier => exact ⟨_, Decides.override hgiven hoverride⟩

/-- What comes out is what a source decides. -/
theorem decides_decide (s : Source) (q : Question) : s.Decides q (s.decide q) := by
  obtain ⟨result, h⟩ := exists_decides s q
  rwa [h.decide_eq]

/-! ## Look-ups that count -/

/-- Without an override in one source there is none in another that answers alike. -/
theorem NoOverride.congr (h : s.NoOverride q) (hsame : ∀ l, s.Asks q l → s.SameAt s' l) :
    s'.NoOverride q := by
  intro agent given
  have hanswer : s.override agent q.tool = s'.override agent q.tool := hsame _ (.override given)
  rw [← hanswer, h agent given]

/-- Nor is there a rule. -/
theorem NoRule.congr (hagent : s.NoOverride q) (h : s.NoRule q)
    (hsame : ∀ l, s.Asks q l → s.SameAt s' l) : s'.NoRule q := by
  intro workspace given
  have hanswer : s.rules workspace = s'.rules workspace := hsame _ (.rules hagent given)
  rw [← hanswer]
  exact h workspace given

/-- A source that answers every look-up alike that is made decides alike. -/
theorem Decides.congr {result : Except LookupFailure Tier} (h : s.Decides q result)
    (hsame : ∀ l, s.Asks q l → s.SameAt s' l) : s'.Decides q result := by
  have hoverride {agent : String} (given : IsGiven q.agent agent) :
      s.override agent q.tool = s'.override agent q.tool := hsame _ (.override given)
  have hrules (no_override : s.NoOverride q) {workspace : String}
      (given : IsGiven q.workspace workspace) : s.rules workspace = s'.rules workspace :=
    hsame _ (.rules no_override given)
  have hdefaults (no_override : s.NoOverride q) (no_rule : s.NoRule q) :
      s.defaults = s'.defaults := hsame _ (.defaults no_override no_rule)
  cases h with
  | overrideFails given failed => exact .overrideFails given (hoverride given ▸ failed)
  | override given found => exact .override given (hoverride given ▸ found)
  | rulesFail no_override given failed =>
    exact .rulesFail (no_override.congr hsame) given (hrules no_override given ▸ failed)
  | rule no_override given found first =>
    exact .rule (no_override.congr hsame) given (hrules no_override given ▸ found) first
  | defaultsFail no_override no_rule failed =>
    exact .defaultsFail (no_override.congr hsame) (no_rule.congr no_override hsame)
      (hdefaults no_override no_rule ▸ failed)
  | default no_override no_rule found least =>
    exact .default (no_override.congr hsame) (no_rule.congr no_override hsame)
      (hdefaults no_override no_rule ▸ found) least
  | review no_override no_rule found no_default =>
    exact .review (no_override.congr hsame) (no_rule.congr no_override hsame)
      (hdefaults no_override no_rule ▸ found) no_default

/-- A tier other than `review` was looked up. -/
theorem Decides.exists_yields {tier : Tier} (h : s.Decides q (.ok tier)) (htier : tier ≠ .review) :
    ∃ l, s.Asks q l ∧ s.Yields q.tool tier l := by
  cases h with
  | override given found => exact ⟨_, .override given, rfl, found⟩
  | rule no_override given found first =>
    obtain ⟨hmatches, before, after, rfl, -⟩ := first
    exact ⟨_, .rules no_override given, _, found, _, by simp, hmatches, rfl⟩
  | default no_override no_rule found least =>
    obtain ⟨hmatches, before, after, rfl, -⟩ := least
    exact ⟨_, .defaults no_override no_rule, _, found, _, by simp, hmatches, rfl⟩
  | review => exact absurd rfl htier

/-- A source decides a question by the agent's override, or else by the first rule of the workspace
that is for the tool, or else by the default of the least priority and the least place that is for
it, and otherwise the call needs review; the first of these look-ups that fails ends the decision
with its failure. Sources that answer alike every look-up that is made decide alike, whatever the
others would yield or however they would fail. And a tier other than `review`, so that a call is let
through above all, is that of a row which was looked up and is for the tool. -/
theorem decide_eq_iff_decides (s : Source) (q : Question) :
    (∀ result, s.decide q = result ↔ s.Decides q result) ∧
      (∀ s' : Source, (∀ l, s.Asks q l → s.SameAt s' l) → s'.decide q = s.decide q) ∧
      ∀ tier, tier ≠ .review → s.decide q = .ok tier → ∃ l, s.Asks q l ∧ s.Yields q.tool tier l := by
  refine ⟨fun result => ⟨?_, Decides.decide_eq⟩, fun s' hsame => ?_, fun tier htier hdecide => ?_⟩
  · rintro rfl
    exact decides_decide s q
  · exact ((decides_decide s q).congr hsame).decide_eq
  · apply Decides.exists_yields _ htier
    rw [← hdecide]
    exact decides_decide s q

/-- Of two defaults of one negative priority the first decides, although the look-up of overrides
would fail: no agent is given. -/
theorem decide_eq_iff_decides_of_negative_priorities :
    let rows : List Default := [⟨"*", .block, 0⟩, ⟨"fs.*", .auto, -3⟩, ⟨"fs.?ead", .review, -3⟩]
    let s : Source := ⟨fun _ _ => .error "down", fun _ => .ok [⟨"net.*", .block⟩], .ok rows⟩
    let s' : Source := ⟨fun _ _ => .ok (some .block), fun _ => .ok [⟨"net.*", .block⟩], .ok rows⟩
    let q : Question := ⟨"fs.read", some "", some "home"⟩
    s.Decides q (.ok .auto) ∧ s'.decide q = .ok .auto ∧
      ∃ l, s.Asks q l ∧ s.Yields "fs.read" .auto l := by
  intro rows s s' q
  obtain ⟨hdecides, hsame, hyields⟩ := decide_eq_iff_decides s q
  have hagent : ∀ agent, ¬ IsGiven q.agent agent :=
    named?_eq_none_iff.mp rfl
  have hrules : ∀ r ∈ [(⟨"net.*", .block⟩ : Rule)], ¬ r.Matches "fs.read" := by decide +kernel
  have hleast : LeastDefault rows "fs.read" ⟨"fs.*", .auto, -3⟩ :=
    ⟨by decide +kernel, [_], [_], rfl, by decide +kernel, by decide +kernel⟩
  have hauto : s.Decides q (.ok .auto) :=
    .default (fun agent given => absurd given (hagent agent)) (fun _ _ => ⟨_, rfl, hrules⟩) rfl
      hleast
  refine ⟨hauto, ?_, hyields .auto (by decide) ((hdecides _).mpr hauto)⟩
  rw [hsame s' fun l hl => ?_, (hdecides _).mpr hauto]
  cases hl with
  | override given => exact absurd given (hagent _)
  | rules => rfl
  | defaults => rfl

end Source

end ToolGateway.Trust
