import ToolGateway.Trust.Policy

/-!
# Policies built row by row

What a policy in memory holds after rows were added, for each kind of row: an override takes the
place of an earlier one for its agent and tool and leaves all others alone, a rule stands behind
those of its workspace, and a default behind all. The sources of such a policy never fail, so a
question always has a tier.
-/

namespace ToolGateway.Trust.Policy

variable {p : Policy}

/-! ## One row more -/

/-- An override is found under its agent and tool and under no others. -/
theorem overrideOf_addOverride (p : Policy) (o : Override) (agent tool : String) :
    (p.addOverride o).overrideOf agent tool =
      if o.agent = agent ∧ o.tool = tool then some o.tier else p.overrideOf agent tool := by
  unfold overrideOf addOverride
  dsimp only
  rw [Table.get?_update]
  by_cases hagent : o.agent = agent
  · subst hagent
    rw [if_pos rfl, Option.bind_some, Table.get?_insert]
    by_cases htool : o.tool = tool
    · simp [htool]
    · rw [if_neg htool, if_neg fun h => htool h.2]
      cases p.overrides.get? o.agent <;> rfl
  · rw [if_neg hagent, if_neg fun h => hagent h.1]

/-- A rule stands behind those of its workspace. -/
theorem rulesOf_addRule (p : Policy) (workspace : String) (rule : Rule) (other : String) :
    (p.addRule workspace rule).rulesOf other =
      if workspace = other then p.rulesOf other ++ [rule] else p.rulesOf other := by
  unfold rulesOf addRule
  dsimp only
  rw [Table.get?_update]
  by_cases h : workspace = other
  · rw [if_pos h, if_pos h, h, Option.getD_some]
  · rw [if_neg h, if_neg h]

@[simp] theorem rules_addOverride (o : Override) : (p.addOverride o).rules = p.rules := rfl

@[simp] theorem defaults_addOverride (o : Override) : (p.addOverride o).defaults = p.defaults := rfl

@[simp] theorem overrides_addRule (workspace : String) (rule : Rule) :
    (p.addRule workspace rule).overrides = p.overrides := rfl

@[simp] theorem defaults_addRule (workspace : String) (rule : Rule) :
    (p.addRule workspace rule).defaults = p.defaults := rfl

/-! ## Many rows more -/

/-- Overrides for other agents or tools do not matter. -/
theorem overrideOf_foldl_of_forall_not (rows : List Override) {agent tool : String}
    (h : ∀ o ∈ rows, ¬ (o.agent = agent ∧ o.tool = tool)) :
    (rows.foldl addOverride p).overrideOf agent tool = p.overrideOf agent tool := by
  induction rows generalizing p with
  | nil => rfl
  | cons o rows ih =>
    obtain ⟨hfirst, hrest⟩ := List.forall_mem_cons.mp h
    rw [List.foldl_cons, ih hrest, overrideOf_addOverride, if_neg hfirst]

/-- Where no two overrides are for one agent and tool, each is found. -/
theorem overrideOf_foldl_of_mem {rows : List Override}
    (h : rows.Pairwise fun o o' => ¬ (o.agent = o'.agent ∧ o.tool = o'.tool)) {o : Override}
    (ho : o ∈ rows) : (rows.foldl addOverride p).overrideOf o.agent o.tool = some o.tier := by
  induction rows generalizing p with
  | nil => cases ho
  | cons first rows ih =>
    obtain ⟨hfirst, hrest⟩ := List.pairwise_cons.mp h
    rw [List.foldl_cons]
    rcases List.mem_cons.mp ho with rfl | ho
    · have hothers : ∀ o' ∈ rows, ¬ (o'.agent = o.agent ∧ o'.tool = o.tool) :=
        fun o' ho' heq => hfirst o' ho' ⟨heq.1.symm, heq.2.symm⟩
      rw [overrideOf_foldl_of_forall_not rows hothers, overrideOf_addOverride,
        if_pos ⟨rfl, rfl⟩]
    · exact ih hrest ho

/-- Overrides leave rules and defaults alone. -/
theorem foldl_addOverride (rows : List Override) :
    (rows.foldl addOverride p).rules = p.rules ∧
      (rows.foldl addOverride p).defaults = p.defaults := by
  induction rows generalizing p with
  | nil => exact ⟨rfl, rfl⟩
  | cons o rows ih => simpa using ih (p := p.addOverride o)

/-- Each workspace has the rules that were added for it, in their order. -/
theorem rulesOf_foldl_addRule (rows : List (String × Rule)) (workspace : String) :
    (rows.foldl (fun p row => p.addRule row.1 row.2) p).rulesOf workspace =
      p.rulesOf workspace ++ (rows.filter (·.1 = workspace)).map Prod.snd := by
  induction rows generalizing p with
  | nil => simp
  | cons row rows ih =>
    rw [List.foldl_cons, ih, rulesOf_addRule]
    by_cases h : row.1 = workspace
    · simp [h]
    · simp [h]

/-- Rules leave overrides and defaults alone. -/
theorem foldl_addRule (rows : List (String × Rule)) :
    (rows.foldl (fun p row => p.addRule row.1 row.2) p).overrides = p.overrides ∧
      (rows.foldl (fun p row => p.addRule row.1 row.2) p).defaults = p.defaults := by
  induction rows generalizing p with
  | nil => exact ⟨rfl, rfl⟩
  | cons row rows ih => simpa using ih (p := p.addRule row.1 row.2)

/-- Defaults stand behind each other and leave overrides and rules alone. -/
theorem foldl_addDefault (rows : List Default) :
    rows.foldl addDefault p = { p with defaults := p.defaults ++ rows } := by
  induction rows generalizing p with
  | nil => simp
  | cons row rows ih => rw [List.foldl_cons, ih, addDefault]; simp

/-! ## Questions -/

/-- A question to a policy in memory has a tier: that of the override, or else of the rules, or else
of the defaults, or else `review`. -/
theorem decide_source (p : Policy) (q : Question) :
    p.source.decide q = .ok
      ((((named? q.agent).bind (p.overrideOf · q.tool)).or
        (((named? q.workspace).bind fun workspace => tierByRules (p.rulesOf workspace) q.tool).or
          (tierByDefaults p.defaults q.tool))).getD .review) := by
  have hagent : p.source.byAgent q = .ok ((named? q.agent).bind (p.overrideOf · q.tool)) := by
    unfold Source.byAgent
    cases named? q.agent <;> rfl
  have hworkspace : p.source.byWorkspace q =
      .ok ((named? q.workspace).bind fun workspace =>
        tierByRules (p.rulesOf workspace) q.tool) := by
    unfold Source.byWorkspace
    cases named? q.workspace <;> rfl
  have hdefaults : p.source.byDefaults q =
      .ok ((tierByDefaults p.defaults q.tool).getD .review) := rfl
  unfold Source.decide
  rw [hagent, hworkspace, hdefaults]
  simp only [bind, Except.bind, pure, Except.pure]
  cases (named? q.agent).bind (p.overrideOf · q.tool) with
  | some tier => rfl
  | none =>
    cases (named? q.workspace).bind fun workspace => tierByRules (p.rulesOf workspace) q.tool with
    | some tier => rfl
    | none => rfl

end ToolGateway.Trust.Policy
