import ToolGateway.Trust.Policy

/-!
# Which row decides

Rules are tried in their order, and defaults by rising priority. What this comes to is said here of
the rows as they stand, without trying or sorting: the deciding rule matches and no rule before it
does, and the deciding default matches, every matching default before it has a greater priority, and
no matching default behind it has a smaller one.
-/

namespace ToolGateway.Trust

/-- An override is for the agent and the tool of a question. -/
def Override.IsFor (o : Override) (q : Question) : Prop := q.agent = some o.agent ∧ q.tool = o.tool

/-- A rule is for a tool. -/
def Rule.Matches (r : Rule) (tool : String) : Prop := Glob.accepts r.pattern tool = true

/-- A default is for a tool. -/
def Default.Matches (d : Default) (tool : String) : Prop := Glob.accepts d.pattern tool = true

instance (o : Override) (q : Question) : Decidable (o.IsFor q) :=
  inferInstanceAs (Decidable (_ ∧ _))

instance (r : Rule) (tool : String) : Decidable (r.Matches tool) :=
  inferInstanceAs (Decidable (_ = _))

instance (d : Default) (tool : String) : Decidable (d.Matches tool) :=
  inferInstanceAs (Decidable (_ = _))

/-- `r` is the first of some rules that is for a tool. -/
def FirstRule (rules : List Rule) (tool : String) (r : Rule) : Prop :=
  r.Matches tool ∧ ∃ before after, rules = before ++ r :: after ∧ ∀ e ∈ before, ¬ e.Matches tool

/-- `d` is for a tool and has the least priority of all defaults that are, and is the first of
those that have it. -/
def LeastDefault (defaults : List Default) (tool : String) (d : Default) : Prop :=
  d.Matches tool ∧ ∃ before after, defaults = before ++ d :: after ∧
    (∀ e ∈ before, e.Matches tool → d.priority < e.priority) ∧
    ∀ e ∈ after, e.Matches tool → d.priority ≤ e.priority

variable {tool : String}

/-! ## Rules -/

/-- The rules give the tier of the first one that is for the tool. -/
theorem tierByRules_eq_some_iff {rules : List Rule} {tier : Tier} :
    tierByRules rules tool = some tier ↔ ∃ r, FirstRule rules tool r ∧ r.tier = tier := by
  simp only [tierByRules, Option.map_eq_some_iff, List.find?_eq_some_iff_append, FirstRule,
    Rule.Matches, Bool.not_eq_true', Bool.not_eq_true]

/-- They give none if and only if none is for it. -/
theorem tierByRules_eq_none_iff {rules : List Rule} :
    tierByRules rules tool = none ↔ ∀ r ∈ rules, ¬ r.Matches tool := by
  simp [tierByRules, Rule.Matches]

/-! ## Defaults -/

/-- One more default in front is the least one if it is for the tool and no other is smaller;
otherwise the least one of the others stays so, provided that it is smaller. -/
theorem leastDefault_cons_iff {first d : Default} {defaults : List Default} :
    LeastDefault (first :: defaults) tool d ↔
      (d = first ∧ first.Matches tool ∧
          ∀ e ∈ defaults, e.Matches tool → first.priority ≤ e.priority) ∨
        LeastDefault defaults tool d ∧ (first.Matches tool → d.priority < first.priority) := by
  constructor
  · rintro ⟨hmatches, before, after, hsplit, hbefore, hafter⟩
    cases before with
    | nil =>
      obtain ⟨rfl, rfl⟩ := List.cons.inj hsplit
      exact Or.inl ⟨rfl, hmatches, hafter⟩
    | cons e before =>
      obtain ⟨rfl, rfl⟩ := List.cons.inj hsplit
      obtain ⟨hfirst, hbefore⟩ := List.forall_mem_cons.mp hbefore
      exact Or.inr ⟨⟨hmatches, before, after, rfl, hbefore, hafter⟩, hfirst⟩
  · rintro (⟨rfl, hmatches, hleast⟩ | ⟨⟨hmatches, before, after, rfl, hbefore, hafter⟩, hfirst⟩)
    · exact ⟨hmatches, [], defaults, rfl, by simp, hleast⟩
    · exact ⟨hmatches, first :: before, after, rfl, List.forall_mem_cons.mpr ⟨hfirst, hbefore⟩,
        hafter⟩

/-- The first match behind sorting is the least default. -/
theorem find?_mergeSort_eq_some_iff {defaults : List Default} {d : Default} :
    (defaults.mergeSort fun a b => a.priority ≤ b.priority).find?
        (fun e => Glob.accepts e.pattern tool) = some d ↔
      LeastDefault defaults tool d := by
  have htrans (a b c : Default) (hab : decide (a.priority ≤ b.priority) = true)
      (hbc : decide (b.priority ≤ c.priority) = true) : decide (a.priority ≤ c.priority) = true :=
    decide_eq_true (Int.le_trans (of_decide_eq_true hab) (of_decide_eq_true hbc))
  have htotal (a b : Default) :
      (decide (a.priority ≤ b.priority) || decide (b.priority ≤ a.priority)) = true := by
    simpa using Int.le_total a.priority b.priority
  induction defaults with
  | nil => simp [LeastDefault]
  | cons first defaults ih =>
    -- Sorting puts the new default behind all smaller ones and leaves the others in their order.
    obtain ⟨smaller, others, hsorted, hrest, hsmaller⟩ :=
      List.mergeSort_cons htrans htotal first defaults
    have hothers : ∀ e ∈ others, first.priority ≤ e.priority := by
      have hpairs := List.pairwise_mergeSort htrans htotal (first :: defaults)
      rw [hsorted, List.pairwise_append, List.pairwise_cons] at hpairs
      exact fun e he => of_decide_eq_true (hpairs.2.1.1 e he)
    have hmem (e : Default) : e ∈ defaults ↔ e ∈ smaller ∨ e ∈ others := by
      rw [← List.mem_append, ← hrest, List.mem_mergeSort]
    rw [leastDefault_cons_iff, ih.symm, hsorted, hrest, List.find?_append, List.find?_append]
    cases hfound : smaller.find? (fun e => Glob.accepts e.pattern tool) with
    | some found =>
      -- A smaller one is for the tool: the new default does not count.
      have hin := List.mem_of_find?_eq_some hfound
      have hmatches := List.find?_some hfound
      have hless : found.priority < first.priority := by
        simpa using hsmaller found hin
      simp only [Option.some_or, Option.some.injEq]
      constructor
      · rintro rfl
        exact Or.inr ⟨rfl, fun _ => hless⟩
      · rintro (⟨-, -, hleast⟩ | ⟨h, -⟩)
        · exact absurd (hleast found ((hmem found).mpr (Or.inl hin)) hmatches) (by omega)
        · exact h
    | none =>
      have hunmatched : ∀ e ∈ smaller, ¬ e.Matches tool := by
        simpa [Default.Matches] using hfound
      simp only [Option.none_or, List.find?_cons]
      cases hfirst : Glob.accepts first.pattern tool with
      | true =>
        simp only [Option.some.injEq]
        constructor
        · rintro rfl
          refine Or.inl ⟨rfl, hfirst, fun e he hmatches => ?_⟩
          rcases (hmem e).mp he with he | he
          · exact absurd hmatches (hunmatched e he)
          · exact hothers e he
        · rintro (⟨rfl, -, -⟩ | ⟨h, hless⟩)
          · rfl
          · have hle := hothers d (List.mem_of_find?_eq_some h)
            have hlt := hless hfirst
            omega
      | false => simp [Default.Matches, hfirst]

/-- The defaults give the tier of the least one that is for the tool. -/
theorem tierByDefaults_eq_some_iff {defaults : List Default} {tier : Tier} :
    tierByDefaults defaults tool = some tier ↔
      ∃ d, LeastDefault defaults tool d ∧ d.tier = tier := by
  simp only [tierByDefaults, Option.map_eq_some_iff, find?_mergeSort_eq_some_iff]

/-- They give none if and only if none is for it. -/
theorem tierByDefaults_eq_none_iff {defaults : List Default} :
    tierByDefaults defaults tool = none ↔ ∀ d ∈ defaults, ¬ d.Matches tool := by
  simp [tierByDefaults, Default.Matches]

end ToolGateway.Trust
