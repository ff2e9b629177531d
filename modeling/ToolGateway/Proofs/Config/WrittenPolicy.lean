import ToolGateway.Proofs.Config.Entries
import ToolGateway.Proofs.Trust.Precedence
import ToolGateway.Proofs.Trust.Tables

/-!
# The policy that was written

A configuration lists the rows of its policy in three sections, and the gateway keeps them in
tables: overrides by agent and tool, rules by workspace, and the defaults, which are sorted whenever
they are asked. `Rows.Gives` reads the tier of a question off the sections themselves, from top to
bottom. For a valid configuration the tables give the same tier to every question
(`IsValid.policy_gives_written`), so no row is lost on the way and none gets into another's place.
-/

namespace ToolGateway.Config

open Trust (Question Tier named? tierByRules tierByDefaults)

/-- A written rule is for the workspace and the tool of a question. -/
def RuleIsFor (row : String × Trust.Rule) (q : Question) : Prop :=
  q.workspace = some row.1 ∧ row.2.Matches q.tool

instance (row : String × Trust.Rule) (q : Question) : Decidable (RuleIsFor row q) :=
  inferInstanceAs (Decidable (_ ∧ _))

/-- The tier that written rows give to a question. -/
inductive Rows.Gives (rows : Rows) (q : Question) : Tier → Prop
  /-- An override is for the question. -/
  | override {o : Trust.Override} (written : o ∈ rows.overrides) (isFor : o.IsFor q) :
      Gives rows q o.tier
  /-- No override is, and this rule is the first in the file that is. -/
  | rule {before after : List (String × Trust.Rule)} {row : String × Trust.Rule}
      (no_override : ∀ o ∈ rows.overrides, ¬ o.IsFor q)
      (written : rows.rules = before ++ row :: after) (isFor : RuleIsFor row q)
      (first : ∀ e ∈ before, ¬ RuleIsFor e q) : Gives rows q row.2.tier
  /-- Neither an override nor a rule is, and this default comes before all others that are. -/
  | default {d : Trust.Default} (no_override : ∀ o ∈ rows.overrides, ¬ o.IsFor q)
      (no_rule : ∀ row ∈ rows.rules, ¬ RuleIsFor row q)
      (least : Trust.LeastDefault rows.defaults q.tool d) : Gives rows q d.tier
  /-- No row is. -/
  | review (no_override : ∀ o ∈ rows.overrides, ¬ o.IsFor q)
      (no_rule : ∀ row ∈ rows.rules, ¬ RuleIsFor row q)
      (no_default : ∀ d ∈ rows.defaults, ¬ d.Matches q.tool) : Gives rows q .review

variable {c : Config} {q : Question} {tier : Tier}

/-! ## The tables -/

/-- The tables of a configuration hold what was added section by section. -/
theorem tables_policy (c : Config) :
    c.policy.overrides = (c.trust.overrides.foldl Trust.Policy.addOverride .empty).overrides ∧
      (∀ workspace, c.policy.rulesOf workspace =
        (c.trust.rules.filter (·.1 = workspace)).map Prod.snd) ∧
      c.policy.defaults = c.trust.defaults := by
  let afterOverrides := c.trust.overrides.foldl Trust.Policy.addOverride .empty
  let afterRules := c.trust.rules.foldl (fun p row => p.addRule row.1 row.2) afterOverrides
  have hpolicy : c.policy =
      { afterRules with defaults := afterRules.defaults ++ c.trust.defaults } :=
    Trust.Policy.foldl_addDefault c.trust.defaults
  obtain ⟨hrules, hdefaults⟩ := Trust.Policy.foldl_addOverride (p := .empty) c.trust.overrides
  obtain ⟨hoverrides', hdefaults'⟩ :=
    Trust.Policy.foldl_addRule (p := afterOverrides) c.trust.rules
  have hnone (workspace : String) : afterOverrides.rulesOf workspace = [] := by
    rw [Trust.Policy.rulesOf, hrules]
    rfl
  rw [hpolicy]
  refine ⟨hoverrides', fun workspace => ?_, ?_⟩
  · have hadded := Trust.Policy.rulesOf_foldl_addRule (p := afterOverrides) c.trust.rules workspace
    rw [hnone, List.nil_append] at hadded
    exact hadded
  · change afterRules.defaults ++ c.trust.defaults = c.trust.defaults
    rw [hdefaults', hdefaults]
    rfl

/-- An agent has the override that was written for it and the tool, if one was; no two may be for
the same. -/
theorem overrideOf_policy_eq_some_iff
    (h : c.trust.overrides.Pairwise fun o o' => ¬ (o.agent = o'.agent ∧ o.tool = o'.tool))
    {agent tool : String} :
    c.policy.overrideOf agent tool = some tier ↔ ⟨agent, tool, tier⟩ ∈ c.trust.overrides := by
  have hlookup (agent tool : String) : c.policy.overrideOf agent tool =
      (c.trust.overrides.foldl Trust.Policy.addOverride .empty).overrideOf agent tool := by
    rw [Trust.Policy.overrideOf, (tables_policy c).1]
    rfl
  constructor
  · intro hfound
    by_cases hrow : ∃ o ∈ c.trust.overrides, o.agent = agent ∧ o.tool = tool
    · obtain ⟨o, ho, rfl, rfl⟩ := hrow
      rw [hlookup, Trust.Policy.overrideOf_foldl_of_mem h ho, Option.some.injEq] at hfound
      exact hfound ▸ ho
    · have hnone : ∀ o ∈ c.trust.overrides, ¬ (o.agent = agent ∧ o.tool = tool) :=
        fun o ho heq => hrow ⟨o, ho, heq⟩
      rw [hlookup, Trust.Policy.overrideOf_foldl_of_forall_not _ hnone] at hfound
      cases hfound
  · intro ho
    rw [hlookup]
    exact Trust.Policy.overrideOf_foldl_of_mem h ho

/-! ## The look-ups -/

/-- The look-up by agent finds the override that is for the question. -/
theorem IsValid.byAgent_eq_some_iff (h : c.IsValid) :
    (named? q.agent).bind (c.policy.overrideOf · q.tool) = some tier ↔
      ∃ o ∈ c.trust.overrides, o.IsFor q ∧ o.tier = tier := by
  constructor
  · intro hfound
    obtain ⟨agent, hagent, hfound⟩ := Option.bind_eq_some_iff.mp hfound
    have hnamed : q.agent = some agent := (Option.filter_eq_some_iff.mp hagent).1
    exact ⟨_, (overrideOf_policy_eq_some_iff h.pairwise_overrides).mp hfound, ⟨hnamed, rfl⟩, rfl⟩
  · rintro ⟨o, ho, ⟨hagent, htool⟩, rfl⟩
    have hnamed : named? q.agent = some o.agent := by
      simp [named?, hagent, h.agent_ne ho]
    rw [hnamed, htool, Option.bind_some]
    exact (overrideOf_policy_eq_some_iff h.pairwise_overrides).mpr ho

/-- It finds none if and only if none is. -/
theorem IsValid.byAgent_eq_none_iff (h : c.IsValid) :
    (named? q.agent).bind (c.policy.overrideOf · q.tool) = none ↔
      ∀ o ∈ c.trust.overrides, ¬ o.IsFor q := by
  rw [Option.eq_none_iff_forall_ne_some]
  constructor
  · intro hnone o ho hfor
    exact hnone o.tier (h.byAgent_eq_some_iff.mpr ⟨o, ho, hfor, rfl⟩)
  · intro hnone tier hfound
    obtain ⟨o, ho, hfor, -⟩ := h.byAgent_eq_some_iff.mp hfound
    exact hnone o ho hfor

/-- The rules of a workspace give what the written rules give that are for the question. -/
theorem tierByRules_policy (c : Config) {workspace : String} (h : q.workspace = some workspace) :
    tierByRules (c.policy.rulesOf workspace) q.tool =
      (c.trust.rules.find? fun row => decide (RuleIsFor row q)).map fun row => row.2.tier := by
  have hsame : (fun row : String × Trust.Rule => decide (row.1 = workspace) &&
      Glob.accepts row.2.pattern q.tool) = fun row => decide (RuleIsFor row q) := by
    funext row
    have hcomm : workspace = row.1 ↔ row.1 = workspace := eq_comm
    simp [RuleIsFor, Trust.Rule.Matches, h, hcomm]
  rw [← hsame, (tables_policy c).2.1, tierByRules, List.find?_map, List.find?_filter,
    Option.map_map]
  simp [Function.comp_def]

/-- The look-up by workspace finds the first written rule that is for the question. -/
theorem IsValid.byWorkspace_eq (h : c.IsValid) (q : Question) :
    ((named? q.workspace).bind fun workspace =>
        tierByRules (c.policy.rulesOf workspace) q.tool) =
      (c.trust.rules.find? fun row => decide (RuleIsFor row q)).map fun row => row.2.tier := by
  cases hnamed : named? q.workspace with
  | some workspace =>
    have hworkspace : q.workspace = some workspace := (Option.filter_eq_some_iff.mp hnamed).1
    rw [Option.bind_some, tierByRules_policy c hworkspace]
  | none =>
    have hnone : ∀ row ∈ c.trust.rules, ¬ RuleIsFor row q := fun row hrow hfor => by
      simp [named?, hfor.1, h.workspace_ne hrow] at hnamed
    rw [List.find?_eq_none.mpr (by simpa using hnone)]
    rfl

/-! ## The decision -/

/-- A question has a tier if and only if the written rows give it. -/
theorem IsValid.decide_policy_eq_ok_iff (h : c.IsValid) :
    c.policy.source.decide q = .ok tier ↔ c.trust.Gives q tier := by
  have hdefaults : c.policy.defaults = c.trust.defaults := (tables_policy c).2.2
  rw [Trust.Policy.decide_source, Except.ok.injEq, h.byWorkspace_eq, hdefaults]
  constructor
  · intro hdecided
    cases hagent : (named? q.agent).bind (c.policy.overrideOf · q.tool) with
    | some found =>
      rw [hagent, Option.some_or, Option.getD_some] at hdecided
      obtain ⟨o, ho, hfor, htier⟩ := h.byAgent_eq_some_iff.mp hagent
      exact hdecided ▸ htier ▸ .override ho hfor
    | none =>
      have hno_override := h.byAgent_eq_none_iff.mp hagent
      rw [hagent, Option.none_or] at hdecided
      cases hrule : c.trust.rules.find? fun row => decide (RuleIsFor row q) with
      | some row =>
        rw [hrule, Option.map_some, Option.some_or, Option.getD_some] at hdecided
        obtain ⟨hfor, before, after, hsplit, hbefore⟩ := List.find?_eq_some_iff_append.mp hrule
        exact hdecided ▸ .rule hno_override hsplit (of_decide_eq_true hfor) (by simpa using hbefore)
      | none =>
        have hno_rule : ∀ row ∈ c.trust.rules, ¬ RuleIsFor row q := by simpa using hrule
        rw [hrule, Option.map_none, Option.none_or] at hdecided
        cases hdefault : tierByDefaults c.trust.defaults q.tool with
        | some found =>
          rw [hdefault, Option.getD_some] at hdecided
          obtain ⟨d, hleast, htier⟩ := Trust.tierByDefaults_eq_some_iff.mp hdefault
          exact hdecided ▸ htier ▸ .default hno_override hno_rule hleast
        | none =>
          rw [hdefault, Option.getD_none] at hdecided
          exact hdecided ▸ .review hno_override hno_rule
            (Trust.tierByDefaults_eq_none_iff.mp hdefault)
  · intro hgives
    cases hgives with
    | override written isFor =>
      rw [h.byAgent_eq_some_iff.mpr ⟨_, written, isFor, rfl⟩, Option.some_or, Option.getD_some]
    | rule no_override written isFor first =>
      have hrule := List.find?_eq_some_iff_append (p := fun row => decide (RuleIsFor row q)).mpr
        ⟨decide_eq_true isFor, _, _, written, by simpa using first⟩
      rw [h.byAgent_eq_none_iff.mpr no_override, Option.none_or, hrule]
      rfl
    | default no_override no_rule least =>
      have hdefault := Trust.tierByDefaults_eq_some_iff.mpr ⟨_, least, rfl⟩
      rw [h.byAgent_eq_none_iff.mpr no_override, Option.none_or,
        List.find?_eq_none.mpr (by simpa using no_rule), hdefault]
      rfl
    | review no_override no_rule no_default =>
      rw [h.byAgent_eq_none_iff.mpr no_override, Option.none_or,
        List.find?_eq_none.mpr (by simpa using no_rule),
        Trust.tierByDefaults_eq_none_iff.mpr no_default]
      rfl

/-- Configurations with the same overrides and defaults, and the same rules of each workspace in the
same order, decide alike, however the rules of different workspaces are mixed. -/
theorem decide_policy_congr {c c' : Config} (hoverrides : c'.trust.overrides = c.trust.overrides)
    (hrules : ∀ workspace, c'.trust.rules.filter (·.1 = workspace) =
      c.trust.rules.filter (·.1 = workspace))
    (hdefaults : c'.trust.defaults = c.trust.defaults) (q : Question) :
    c'.policy.source.decide q = c.policy.source.decide q := by
  obtain ⟨htable, hlists, hrest⟩ := tables_policy c
  obtain ⟨htable', hlists', hrest'⟩ := tables_policy c'
  have hoverrideOf (agent tool : String) :
      c'.policy.overrideOf agent tool = c.policy.overrideOf agent tool := by
    rw [Trust.Policy.overrideOf, Trust.Policy.overrideOf, htable', htable, hoverrides]
  have hrulesOf (workspace : String) :
      c'.policy.rulesOf workspace = c.policy.rulesOf workspace := by
    rw [hlists', hlists, hrules]
  rw [Trust.Policy.decide_source, Trust.Policy.decide_source, hrest', hrest, hdefaults]
  simp only [hoverrideOf, hrulesOf]

/-- The policy of a valid configuration is the one that was written. Every question has a tier, the
one and only that the written rows give, and one override at most is for it. The tables hold the
overrides, the rules of each workspace and the defaults as they were written and nothing else, and
how the rules of different workspaces are mixed in the file does not matter. -/
theorem IsValid.policy_gives_written (h : c.IsValid) (q : Question) :
    (∃ tier, c.policy.source.decide q = .ok tier ∧ ∀ t, c.trust.Gives q t ↔ t = tier) ∧
      (∀ (i j : Nat) (o o' : Trust.Override), c.trust.overrides[i]? = some o →
        c.trust.overrides[j]? = some o' → o.IsFor q → o'.IsFor q → i = j) ∧
      (∀ agent tool tier, c.policy.overrideOf agent tool = some tier ↔
        ⟨agent, tool, tier⟩ ∈ c.trust.overrides) ∧
      (∀ workspace, c.policy.rulesOf workspace =
        (c.trust.rules.filter (·.1 = workspace)).map Prod.snd) ∧
      c.policy.defaults = c.trust.defaults ∧
      ∀ rules, (∀ workspace, rules.filter (·.1 = workspace) =
          c.trust.rules.filter (·.1 = workspace)) →
        { c with trust := { c.trust with rules } }.policy.source.decide q =
          c.policy.source.decide q := by
  refine ⟨?_, ?_, fun _ _ _ => overrideOf_policy_eq_some_iff h.pairwise_overrides,
    (tables_policy c).2.1, (tables_policy c).2.2, fun rules hrules => ?_⟩
  · refine ⟨_, Trust.Policy.decide_source c.policy q, fun t => ?_⟩
    rw [← h.decide_policy_eq_ok_iff, Trust.Policy.decide_source, Except.ok.injEq, eq_comm]
  · intro i j o o' hi hj hfor hfor'
    obtain ⟨hin, rfl⟩ := List.getElem?_eq_some_iff.mp hi
    obtain ⟨hjn, rfl⟩ := List.getElem?_eq_some_iff.mp hj
    have hsame {o o' : Trust.Override} (h : o.IsFor q) (h' : o'.IsFor q) :
        o.agent = o'.agent ∧ o.tool = o'.tool :=
      ⟨Option.some.inj (h.1.symm.trans h'.1), h.2.symm.trans h'.2⟩
    have hdistinct := List.pairwise_iff_getElem.mp h.pairwise_overrides
    rcases Nat.lt_trichotomy i j with hij | hij | hij
    · exact absurd (hsame hfor hfor') (hdistinct i j hin hjn hij)
    · exact hij
    · exact absurd (hsame hfor' hfor) (hdistinct j i hjn hin hij)
  · refine decide_policy_congr ?_ hrules ?_ q <;> rfl

/-- Rules of two workspaces are mixed in the file, and two of the defaults that match have the same
priority. -/
theorem policy_gives_written_of_mixed_rules :
    let red : Trust.Rule := ⟨"git_*", .block⟩
    let blue : Trust.Rule := ⟨"*", .review⟩
    let later : Trust.Rule := ⟨"git_log", .auto⟩
    let rows (rules : List (String × Trust.Rule)) : Rows :=
      ⟨[⟨"*", .block, 7⟩, ⟨"l?", .auto, -2⟩, ⟨"ls", .review, -2⟩], rules,
        [⟨"bot", "git_log", .review⟩]⟩
    let c (rules : List (String × Trust.Rule)) : Config :=
      { Config.standard with trust := rows rules }
    let written : Config := c [("red", red), ("blue", blue), ("red", later)]
    let asked (agent tool workspace : String) : Question := ⟨tool, some agent, some workspace⟩
    written.IsValid ∧
      written.policy.source.decide (asked "bot" "git_log" "red") = .ok .review ∧
      written.policy.source.decide (asked "me" "git_log" "red") = .ok .block ∧
      written.policy.source.decide (asked "me" "ls" "green") = .ok .auto ∧
      (c [("blue", blue), ("red", red), ("red", later)]).policy.source.decide
        (asked "me" "git_log" "red") = .ok .block := by
  intro red blue later rows c written asked
  have hvalid : written.IsValid := by decide +kernel +revert
  have hgit : red.Matches "git_log" := by decide +kernel
  have hls : (⟨"l?", .auto, -2⟩ : Trust.Default).Matches "ls" := by decide +kernel
  have hdecides {q : Question} {t : Tier} (hgives : written.trust.Gives q t) :
      written.policy.source.decide q = .ok t := by
    obtain ⟨⟨tier, hdecided, hunique⟩, -⟩ := hvalid.policy_gives_written q
    rw [hdecided, (hunique t).mp hgives]
  have hnot_bot (tool workspace : String) : ∀ o ∈ written.trust.overrides,
      ¬ o.IsFor (asked "me" tool workspace) := by
    simp [written, c, rows, asked, Trust.Override.IsFor]
  have hoverride : written.trust.Gives (asked "bot" "git_log" "red") .review :=
    .override (o := ⟨"bot", "git_log", .review⟩) (List.mem_singleton.mpr rfl) ⟨rfl, rfl⟩
  have hrule : written.trust.Gives (asked "me" "git_log" "red") .block :=
    .rule (hnot_bot _ _) (List.nil_append _).symm ⟨rfl, hgit⟩ (by simp)
  have hdefault : written.trust.Gives (asked "me" "ls" "green") .auto := by
    refine .default (hnot_bot _ _) ?_ ⟨hls, [⟨"*", .block, 7⟩], [⟨"ls", .review, -2⟩], rfl, ?_, ?_⟩
    · simp [written, c, rows, asked, RuleIsFor]
    · simp
    · simp
  obtain ⟨-, -, -, -, -, hmixed⟩ := hvalid.policy_gives_written (asked "me" "git_log" "red")
  refine ⟨hvalid, hdecides hoverride, hdecides hrule, hdecides hdefault, ?_⟩
  refine (hmixed _ fun workspace => ?_).trans (hdecides hrule)
  by_cases hblue : "blue" = workspace
  · subst hblue
    simp [written, c, rows]
  · simp [written, c, rows, List.filter_cons, hblue]

end ToolGateway.Config
