import ToolGateway.Config.Validity

/-!
# What a valid configuration holds

A configuration is valid if it has no faults, and then none of its parts has. So every caller and
every tool server of a valid configuration passed its own checks, each judged with those before it,
and the rate lies within its bounds.
-/

namespace ToolGateway.Config

variable {c : Config}

/-- A fault is left out exactly if its condition does not hold. -/
@[simp] theorem Fault.when_eq_nil (fault : Fault) (condition : Prop) [Decidable condition] :
    fault.when condition = [] ↔ ¬ condition := by
  by_cases h : condition <;> simp [Fault.when, h]

/-- Where a list has no faults, none of its entries has, judged with those before it. -/
theorem judge_eq_nil_of_faultsOfEach {α : Type} {judge : List α → α → List Fault}
    {earlier before after : List α} {x : α}
    (h : faultsOfEach judge earlier (before ++ x :: after) = []) :
    judge (before.reverse ++ earlier) x = [] := by
  induction before generalizing earlier with
  | nil => exact (List.append_eq_nil_iff.mp h).1
  | cons y before ih =>
    have hrest := ih (List.append_eq_nil_iff.mp h).2
    rwa [List.reverse_cons, List.append_assoc]

/-- So none of its entries has, judged with some others. -/
theorem exists_judge_eq_nil {α : Type} {judge : List α → α → List Fault} {earlier entries : List α}
    {x : α} (h : faultsOfEach judge earlier entries = []) (hx : x ∈ entries) :
    ∃ others, judge others x = [] := by
  obtain ⟨before, after, rfl⟩ := List.append_of_mem hx
  exact ⟨_, judge_eq_nil_of_faultsOfEach h⟩

/-- Where a list has no faults, its entries are related as each is to those before it. -/
theorem pairwise_of_faultsOfEach {α : Type} {judge : List α → α → List Fault} {R : α → α → Prop}
    (hjudge : ∀ earlier x, judge earlier x = [] → ∀ y ∈ earlier, R y x) {earlier entries : List α}
    (h : faultsOfEach judge earlier entries = []) : entries.Pairwise R := by
  induction entries generalizing earlier with
  | nil => exact List.Pairwise.nil
  | cons x entries ih =>
    have hrest := (List.append_eq_nil_iff.mp h).2
    refine List.pairwise_cons.mpr ⟨fun y hy => ?_, ih hrest⟩
    obtain ⟨before, after, rfl⟩ := List.append_of_mem hy
    exact hjudge _ y (judge_eq_nil_of_faultsOfEach hrest) x (by simp)

/-- If each entry is kept from having the key of one before it, no two entries have the same key. -/
theorem pairwise_ne_of_faultsOfEach {α β : Type} {judge : List α → α → List Fault} (key : α → β)
    (hjudge : ∀ earlier x, judge earlier x = [] → key x ∉ earlier.map key) {entries : List α}
    (h : faultsOfEach judge [] entries = []) : entries.Pairwise fun x y => key x ≠ key y := by
  apply pairwise_of_faultsOfEach _ h
  intro earlier x hjudged y hy hsame
  exact hjudge earlier x hjudged (hsame ▸ List.mem_map_of_mem hy)

/-- Where no two entries have the same key, an entry is the one that is found by its key. -/
theorem find?_key_eq_some_iff {α β : Type} [BEq β] [LawfulBEq β] {key : α → β} {entries : List α}
    (h : entries.Pairwise fun x y => key x ≠ key y) {k : β} {x : α} :
    entries.find? (key · == k) = some x ↔ x ∈ entries ∧ key x = k := by
  constructor
  · intro hfound
    have hkey := List.find?_some hfound
    exact ⟨List.mem_of_find?_eq_some hfound, eq_of_beq hkey⟩
  · rintro ⟨hx, rfl⟩
    obtain ⟨before, after, rfl⟩ := List.append_of_mem hx
    obtain ⟨-, -, hbefore⟩ := List.pairwise_append.mp h
    refine List.find?_eq_some_iff_append.mpr ⟨beq_self_eq_true _, before, after, rfl, ?_⟩
    intro y hy
    have hne := hbefore y hy x List.mem_cons_self
    simpa using hne

/-- The parts of a valid configuration are without faults. -/
theorem IsValid.parts (h : c.IsValid) :
    c.listener.faults = [] ∧ c.rate.faults = [] ∧ serversFaults c.servers = [] := by
  simp only [IsValid, faults, List.append_eq_nil_iff] at h
  obtain ⟨⟨⟨⟨⟨⟨hlistener, -⟩, hrate⟩, -⟩, -⟩, hservers⟩, -⟩ := h
  exact ⟨hlistener, hrate, hservers⟩

/-- The callers of a valid configuration are without faults, each judged with those before it. -/
theorem IsValid.callers_faults_eq_nil (h : c.IsValid) :
    faultsOfEach callerFaultsBehind [] c.listener.callers.callers = [] := by
  have hcallers : callersFaults c.listener.callers = [] := by
    have hlistener := h.parts.1
    simp only [Listener.faults, List.append_eq_nil_iff] at hlistener
    exact hlistener.1.2
  unfold callersFaults at hcallers
  split at hcallers
  · cases hcallers
  · exact (List.append_eq_nil_iff.mp hcallers).2

/-- A caller of a valid configuration is without faults. -/
theorem IsValid.callerFaults_eq_nil (h : c.IsValid) {caller : Caller}
    (hcaller : caller ∈ c.listener.callers.callers) : callerFaults caller = [] := by
  obtain ⟨others, hjudged⟩ := exists_judge_eq_nil h.callers_faults_eq_nil hcaller
  simp only [callerFaultsBehind, List.append_eq_nil_iff] at hjudged
  exact hjudged.1.1

/-- No two callers of a valid configuration have the same id. -/
theorem IsValid.pairwise_ids (h : c.IsValid) :
    c.listener.callers.callers.Pairwise fun caller caller' => caller.id ≠ caller'.id := by
  apply pairwise_ne_of_faultsOfEach Caller.id _ h.callers_faults_eq_nil
  intro earlier caller hjudged
  simp only [callerFaultsBehind, List.append_eq_nil_iff, Fault.when_eq_nil] at hjudged
  exact hjudged.1.2

/-- No two callers of a valid configuration have the same token. -/
theorem IsValid.pairwise_tokens (h : c.IsValid) :
    c.listener.callers.callers.Pairwise fun caller caller' => caller.token ≠ caller'.token := by
  apply pairwise_ne_of_faultsOfEach Caller.token _ h.callers_faults_eq_nil
  intro earlier caller hjudged
  simp only [callerFaultsBehind, List.append_eq_nil_iff, Fault.when_eq_nil] at hjudged
  exact hjudged.2

/-- A caller's token that passes its checks is not empty, not long, and has no blanks. -/
theorem token_of_callerFaults {caller : Caller} (h : callerFaults caller = []) :
    caller.token ≠ "" ∧ caller.token.utf8ByteSize ≤ maxTokenLength ∧
      ∀ ch ∈ caller.token.toList, Text.isBlank ch = false := by
  simp only [callerFaults, List.append_eq_nil_iff, Fault.when_eq_nil, not_or, Decidable.not_not]
    at h
  obtain ⟨⟨⟨-, hmissing⟩, hlong⟩, htrimmed, hblank⟩ := h
  rw [htrimmed] at hmissing hlong hblank
  refine ⟨hmissing, Nat.le_of_not_lt hlong, fun ch hch => ?_⟩
  exact Bool.eq_false_iff.mpr fun hb => hblank (List.any_eq_true.mpr ⟨ch, hch, hb⟩)

/-- Nor have its tool servers, each judged with those before it. -/
theorem IsValid.servers_faults_eq_nil (h : c.IsValid) :
    faultsOfEach serverFaultsBehind [] c.servers = [] := by
  have hservers := h.parts.2.2
  unfold serversFaults at hservers
  split at hservers
  · cases hservers
  · exact hservers

/-- A tool server of a valid configuration is without faults. -/
theorem IsValid.serverFaults_eq_nil (h : c.IsValid) {server : ToolServer}
    (hserver : server ∈ c.servers) : serverFaults server = [] := by
  obtain ⟨others, hjudged⟩ := exists_judge_eq_nil h.servers_faults_eq_nil hserver
  exact (List.append_eq_nil_iff.mp hjudged).1

/-- Nor have its policy rows faults. -/
theorem IsValid.rows_faults_eq_nil (h : c.IsValid) :
    c.trust.rules.flatMap (fun row => blankFault "trust.rules.workspace_id" row.1 ++
        blankFault "trust.rules.pattern" row.2.pattern) = [] ∧
      faultsOfEach overrideFaultsBehind [] c.trust.overrides = [] := by
  have hrows : c.trust.faults = [] := (List.append_eq_nil_iff.mp h).2
  unfold Rows.faults at hrows
  split at hrows
  · cases hrows
  · simp only [List.append_eq_nil_iff] at hrows
    exact ⟨hrows.1.2, hrows.2⟩

/-- A rule of a valid configuration names its workspace. -/
theorem IsValid.workspace_ne (h : c.IsValid) {row : String × Trust.Rule}
    (hrow : row ∈ c.trust.rules) : row.1 ≠ "" := by
  have hfaults := List.flatMap_eq_nil_iff.mp h.rows_faults_eq_nil.1 row hrow
  simp only [List.append_eq_nil_iff, blankFault, Fault.when_eq_nil] at hfaults
  intro hempty
  rw [hempty] at hfaults
  exact hfaults.1 rfl

/-- An override of a valid configuration names its agent. -/
theorem IsValid.agent_ne (h : c.IsValid) {o : Trust.Override} (ho : o ∈ c.trust.overrides) :
    o.agent ≠ "" := by
  obtain ⟨others, hjudged⟩ := exists_judge_eq_nil h.rows_faults_eq_nil.2 ho
  simp only [overrideFaultsBehind, List.append_eq_nil_iff, blankFault, Fault.when_eq_nil] at hjudged
  intro hempty
  rw [hempty] at hjudged
  exact hjudged.1.1 rfl

/-- No two overrides of a valid configuration are for one agent and tool. -/
theorem IsValid.pairwise_overrides (h : c.IsValid) :
    c.trust.overrides.Pairwise fun o o' => ¬ (o.agent = o'.agent ∧ o.tool = o'.tool) := by
  refine pairwise_of_faultsOfEach (fun earlier o hjudged e he hsame => ?_) h.rows_faults_eq_nil.2
  simp only [overrideFaultsBehind, List.append_eq_nil_iff, Fault.when_eq_nil] at hjudged
  exact hjudged.2 (List.any_eq_true.mpr ⟨e, he, by simp [hsame]⟩)

/-- The window of a valid configuration is longer than nothing and its length in nanoseconds is
resolved by the limiter. -/
theorem IsValid.window_bounds (h : c.IsValid) :
    0 < c.rate.windowLength ∧ c.rate.windowLength < UInt64.size := by
  have hrate := h.parts.2.1
  simp only [Rate.faults, List.append_eq_nil_iff, Fault.when_eq_nil] at hrate
  have hwindow : ¬ (c.rate.window < 100 ∨ 3600000 < c.rate.window) := hrate.2
  simp only [Rate.windowLength, Time.millisecond, UInt64.size]
  omega

/-- The characters of a label that passes its checks are no colons. -/
theorem colon_notMem_of_labelFaults {label : String} (h : labelFaults label = []) :
    ':' ∉ label.toList := by
  simp only [labelFaults, List.append_eq_nil_iff, Fault.when_eq_nil, Decidable.not_not] at h
  intro hcolon
  have hallowed := List.all_eq_true.mp h.2 ':' hcolon
  revert hallowed
  decide

/-- Nor are those of a caller's id. -/
theorem colon_notMem_of_callerFaults {caller : Caller} (h : callerFaults caller = []) :
    ':' ∉ caller.id.toList := by
  simp only [callerFaults, List.append_eq_nil_iff, Fault.when_eq_nil] at h
  exact h.1.1.1.2

end ToolGateway.Config
