import ToolGateway.Proofs.Breaker.History

/-!
# Breakers while a trial is young

A trial that began less than one blackout ago keeps other trials out, because either it still
holds its place, or a report has come since and the breaker is closed or has begun a blackout
anew. There is one way around both: a trial gives its place back. The place has no owner, so it
need not be the young trial that does so. This is the only way (`attempt_eq_trial_iff_gaveBack`).
-/

namespace ToolGateway.Breaker

/-- Whether a use reports how a call went. -/
def Use.isReport : Use → Bool
  | .success => true
  | .failure _ => true
  | .attempt _ => false
  | .release => false

/-- Nothing was reported, and the last use was that of a trial that gave its place back. -/
def GaveBack (uses : List Event) : Prop :=
  (∀ e ∈ uses, e.use.isReport = false) ∧ ∃ e ∈ uses.getLast?, e.use = .release

variable {n since began blackout now : Nat} {uses : List Event}

/-- A trial is admitted at an open breaker whose blackout is over, and takes the place there. -/
theorem attempt_of_trial {b : Breaker} (h : (b.attempt blackout now).1 = some .trial) :
    ∃ n since, blackout ≤ now - since ∧
      (b.attempt blackout now).2 = .opened n since (some now) := by
  cases b with
  | closed n => simp [attempt] at h
  | opened n since trial =>
    rw [attempt_fst, openedAt, trialAt] at h
    refine ⟨n, since, (answer_some_eq_trial_iff.mp h).1, ?_⟩
    rw [attempt_snd_opened, if_pos h]

/-- Without a report an open breaker stays open since the same time. Its place for a trial is free
exactly when a trial has just given it back. -/
theorem foldl_take_of_no_report (hover : blackout ≤ began - since)
    (htimes : ∀ e ∈ uses, began ≤ e.time)
    (hsettings : ∀ e ∈ uses, ∀ s, e.use = .attempt s → s.blackout = blackout)
    (hquiet : ∀ e ∈ uses, e.use.isReport = false) :
    ∃ trial, uses.foldl take (.opened n since (some began)) = .opened n since trial ∧
      (trial = none ↔ ∃ e ∈ uses.getLast?, e.use = .release) ∧
      ∀ t ∈ trial, began ≤ t := by
  induction uses using List.reverseRecOn with
  | nil => exact ⟨some began, rfl, by simp, by simp⟩
  | append_singleton uses e ih =>
    have hmem : ∀ e' ∈ uses, e' ∈ uses ++ [e] := fun _ h => List.mem_append_left _ h
    obtain ⟨trial, hfold, -, hlate⟩ := ih (fun e' h => htimes e' (hmem e' h))
      (fun e' h => hsettings e' (hmem e' h)) (fun e' h => hquiet e' (hmem e' h))
    have hlast : e ∈ uses ++ [e] := List.mem_concat_self
    have htime := htimes e hlast
    have hblackout := hsettings e hlast
    have hsilent := hquiet e hlast
    obtain ⟨time, use⟩ := e
    rw [List.foldl_append, hfold, List.foldl_cons, List.foldl_nil]
    cases use with
    | attempt s =>
      have hs : s.blackout = blackout := hblackout s rfl
      dsimp only at htime
      refine ⟨_, attempt_snd_opened n since s.blackout time trial, ?_, ?_⟩
      · have hfree : answer (some since) none s.blackout time = some .trial :=
          answer_some_eq_trial_iff.mpr ⟨by omega, by simp⟩
        cases trial with
        | none => simp [hfree]
        | some t =>
          by_cases h : answer (some since) (some t) s.blackout time = some .trial <;> simp [h]
      · split
        · simpa using htime
        · exact hlate
    | release => exact ⟨none, rfl, by simp, by simp⟩
    | success => simp [Use.isReport] at hsilent
    | failure s => simp [Use.isReport] at hsilent

/-- A use that comes late leaves no early opening time: a report sets it anew or closes the
breaker, and other uses leave it alone. -/
theorem le_openedAt_take {b : Breaker} {e : Event} (htime : began ≤ e.time)
    (h : e.use.isReport = true ∨ ∀ since ∈ b.openedAt, began ≤ since) :
    ∀ since ∈ (b.take e).openedAt, began ≤ since := by
  obtain ⟨time, use⟩ := e
  dsimp only at htime
  cases use with
  | attempt s => simpa [take, Use.isReport] using h
  | release => simpa [take, Use.isReport] using h
  | success => simp [take, succeed, fresh, openedAt]
  | failure s =>
    cases b with
    | opened n since trial => simpa [take, fail, openedAt] using htime
    | closed n =>
      simp only [take, fail]
      split
      · simpa [openedAt] using htime
      · simp [openedAt]

/-- Once there was a late report, a breaker that is open is open since a late time. -/
theorem le_openedAt_foldl {b : Breaker} (htimes : ∀ e ∈ uses, began ≤ e.time)
    (h : (∃ e ∈ uses, e.use.isReport = true) ∨ ∀ since ∈ b.openedAt, began ≤ since) :
    ∀ since ∈ (uses.foldl take b).openedAt, began ≤ since := by
  induction uses generalizing b with
  | nil => simpa using h
  | cons e uses ih =>
    have htime := htimes e List.mem_cons_self
    apply ih fun e' he' => htimes e' (List.mem_cons_of_mem _ he')
    rcases h with ⟨e', he', hreport⟩ | h
    · rcases List.mem_cons.mp he' with rfl | he'
      · exact Or.inr (le_openedAt_take htime (Or.inl hreport))
      · exact Or.inl ⟨e', he', hreport⟩
    · exact Or.inr (le_openedAt_take htime (Or.inr h))

/-- While a trial is young, another is admitted if and only if nothing was reported since and the
last use of the breaker was that of a trial that gave its place back. -/
theorem attempt_eq_trial_iff_gaveBack (hover : blackout ≤ began - since) (hbegan : began ≤ now)
    (hyoung : now < began + blackout) (htimes : ∀ e ∈ uses, began ≤ e.time)
    (hsettings : ∀ e ∈ uses, ∀ s, e.use = .attempt s → s.blackout = blackout) :
    ((uses.foldl take (.opened n since (some began))).attempt blackout now).1 = some .trial ↔
      GaveBack uses := by
  rw [attempt_fst]
  by_cases hquiet : ∀ e ∈ uses, e.use.isReport = false
  · obtain ⟨trial, hfold, hfree, hlate⟩ :=
      foldl_take_of_no_report (n := n) hover htimes hsettings hquiet
    rw [hfold, GaveBack, and_iff_right hquiet, ← hfree]
    simp only [openedAt, trialAt, answer_some_eq_trial_iff]
    cases trial with
    | none => simpa using (by omega : blackout ≤ now - since)
    | some t =>
      have ht : began ≤ t := hlate t rfl
      simp only [Option.mem_some_iff, forall_eq', reduceCtorEq, iff_false, not_and]
      omega
  · have hreport : ∃ e ∈ uses, e.use.isReport = true := by simpa using hquiet
    have hlate := le_openedAt_foldl (b := .opened n since (some began)) htimes (Or.inl hreport)
    constructor
    · intro h
      cases hopen : (uses.foldl take (.opened n since (some began))).openedAt with
      | none => simp [hopen, answer] at h
      | some since' =>
        have hsince : began ≤ since' := hlate since' hopen
        rw [hopen, answer_some_eq_trial_iff] at h
        omega
    · exact fun h => absurd h.1 hquiet

end ToolGateway.Breaker
