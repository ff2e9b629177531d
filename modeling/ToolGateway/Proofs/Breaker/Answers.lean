import ToolGateway.Proofs.Breaker.History

/-!
# What breakers answer

All that a caller ever learns from breakers is whether they let a call pass. A trial that has held
its place for a whole blackout keeps nobody out any more, so whether its place was given back does
not show: breakers that differ in such trials alone give the same answers from then on, whatever
they are used for. So a trial that is admitted and gives its place back at once has not been there.
-/

namespace ToolGateway

namespace Breaker

variable {blackout now : Nat} {b b' : Breaker}

/-- The answer to a use: only a call that asks for admission gets one. -/
def answerTo (b : Breaker) (e : Event) : Option (Option Admission) :=
  match e.use with
  | .attempt settings => some (b.attempt settings.blackout e.time).1
  | _ => none

/-- The breakers `b` and `b'` are the same but for the trial of `b`, which is over, and which `b'`
has not. -/
def SameButOver (blackout now : Nat) (b b' : Breaker) : Prop :=
  b' = b ∨ ∃ n since began, b = .opened n since (some began) ∧ b' = .opened n since none ∧
    blackout ≤ now - began

/-- What they show is the same. -/
theorem SameButOver.shown_eq (h : SameButOver blackout now b b') :
    b'.isOpen = b.isOpen ∧ b'.failures = b.failures ∧ b'.openedAt = b.openedAt := by
  rcases h with rfl | ⟨n, since, began, rfl, rfl, -⟩
  · exact ⟨rfl, rfl, rfl⟩
  · exact ⟨rfl, rfl, rfl⟩

/-- They answer every later use in the same way, and stay so. -/
theorem SameButOver.take {e : Event} (h : SameButOver blackout now b b') (htime : now ≤ e.time)
    (hkept : ∀ settings, e.use = .attempt settings → settings.blackout = blackout) :
    b'.answerTo e = b.answerTo e ∧ SameButOver blackout now (b.take e) (b'.take e) := by
  rcases h with rfl | ⟨n, since, began, rfl, rfl, hover⟩
  · exact ⟨rfl, Or.inl rfl⟩
  · obtain ⟨time, use⟩ := e
    cases use with
    | attempt settings =>
      have hlate : blackout ≤ time - began := by
        dsimp only at htime
        omega
      obtain rfl := hkept settings rfl
      have hanswer : answer (some since) (some began) settings.blackout time =
          answer (some since) none settings.blackout time := by
        simp [answer, hlate]
      refine ⟨?_, ?_⟩
      · simp only [answerTo, attempt_fst, openedAt, trialAt, hanswer]
      · simp only [Breaker.take, attempt_snd_opened, hanswer]
        by_cases htrial : answer (some since) none settings.blackout time = some .trial
        · rw [if_pos htrial, if_pos htrial]
          exact Or.inl rfl
        · rw [if_neg htrial, if_neg htrial]
          exact Or.inr ⟨n, since, began, rfl, rfl, hover⟩
    | release => exact ⟨rfl, Or.inl rfl⟩
    | success => exact ⟨rfl, Or.inl rfl⟩
    | failure settings => exact ⟨rfl, Or.inl rfl⟩

/-- A call asks for admission and, if it is admitted as a trial, gives its place back. -/
def askInVain (b : Breaker) (blackout now : Nat) : Breaker :=
  if (b.attempt blackout now).1 = some .trial then (b.attempt blackout now).2.release
  else (b.attempt blackout now).2

/-- That does not show. -/
theorem sameButOver_askInVain (b : Breaker) (blackout now : Nat) :
    SameButOver blackout now b (b.askInVain blackout now) := by
  unfold askInVain
  cases b with
  | closed n => exact Or.inl rfl
  | opened n since trial =>
    rw [attempt_fst, attempt_snd_opened, openedAt, trialAt]
    by_cases htrial : answer (some since) trial blackout now = some .trial
    · rw [if_pos htrial, if_pos htrial]
      cases trial with
      | none => exact Or.inl rfl
      | some began =>
        exact Or.inr ⟨n, since, began, rfl, rfl, (answer_some_eq_trial_iff.mp htrial).2 began rfl⟩
    · rw [if_neg htrial, if_neg htrial]
      exact Or.inl rfl

end Breaker

namespace Breakers

variable {bs bs' : Breakers} {label : String} {blackout now : Nat}

/-- The answers to a list of uses, the first one first, each with the label it concerns. -/
def answers (bs : Breakers) : List (String × Breaker.Event) → List (Option Admission)
  | [] => []
  | (label, e) :: uses => ((bs.of label).answerTo e).toList ++ (bs.take label e).answers uses

/-- The settings of a label are kept if every call that asks its breaker brings this blackout. -/
def KeepsBlackout (label : String) (blackout : Nat) (uses : List (String × Breaker.Event)) : Prop :=
  ∀ e settings, (label, e) ∈ uses → e.use = .attempt settings → settings.blackout = blackout

/-- Breakers that are the same but for a trial of one label that is over give the same answers. -/
theorem answers_eq (hother : ∀ other, other ≠ label → bs'.of other = bs.of other)
    (hsame : Breaker.SameButOver blackout now (bs.of label) (bs'.of label))
    {uses : List (String × Breaker.Event)} (htimes : ∀ entry ∈ uses, now ≤ entry.2.time)
    (hkept : KeepsBlackout label blackout uses) : bs'.answers uses = bs.answers uses := by
  induction uses generalizing bs bs' with
  | nil => rfl
  | cons entry uses ih =>
    obtain ⟨used, e⟩ := entry
    have htime := htimes _ List.mem_cons_self
    have htimes' : ∀ entry ∈ uses, now ≤ entry.2.time :=
      fun entry h => htimes entry (List.mem_cons_of_mem _ h)
    have hkept' : KeepsBlackout label blackout uses :=
      fun e settings h => hkept e settings (List.mem_cons_of_mem _ h)
    by_cases hlabel : used = label
    · subst hlabel
      obtain ⟨hanswer, hnext⟩ :=
        hsame.take htime fun settings => hkept e settings List.mem_cons_self
      have hrest : (bs'.take used e).answers uses = (bs.take used e).answers uses := by
        refine ih (fun other hne => ?_) ?_ htimes' hkept'
        · rw [of_take, of_take, if_neg hne.symm, if_neg hne.symm]
          exact hother other hne
        · rw [of_take, of_take, if_pos rfl, if_pos rfl]
          exact hnext
      rw [answers, answers, hanswer, hrest]
    · have hrest : (bs'.take used e).answers uses = (bs.take used e).answers uses := by
        refine ih (fun other hne => ?_) ?_ htimes' hkept'
        · rw [of_take, of_take, hother other hne]
        · rw [of_take, of_take, if_neg hlabel, if_neg hlabel]
          exact hsame
      rw [answers, answers, hother used hlabel, hrest]

/-- A call asks the breaker of a label and, if it is admitted as a trial, gives its place back. -/
def askInVain (bs : Breakers) (label : String) (settings : Breaker.Settings) (now : Nat) :
    Breakers :=
  if (bs.attempt label settings now).1 = some .trial then
    (bs.attempt label settings now).2.release label
  else (bs.attempt label settings now).2

/-- That concerns the breaker of the label and no other. -/
theorem of_askInVain (bs : Breakers) (label other : String) (settings : Breaker.Settings)
    (now : Nat) :
    (bs.askInVain label settings now).of other =
      if label = other then (bs.of other).askInVain settings.blackout now else bs.of other := by
  have hattempt : (bs.attempt label settings now).2.of other =
      if label = other then ((bs.of other).attempt settings.blackout now).2 else bs.of other :=
    of_take bs label other ⟨now, .attempt settings⟩
  have hrelease : ((bs.attempt label settings now).2.release label).of other =
      if label = other then ((bs.attempt label settings now).2.of other).release
      else (bs.attempt label settings now).2.of other :=
    of_take _ label other ⟨now, .release⟩
  have hanswer : (bs.attempt label settings now).1 =
      ((bs.of label).attempt settings.blackout now).1 := rfl
  unfold askInVain Breaker.askInVain
  by_cases hlabel : label = other
  · subst hlabel
    rw [if_pos rfl] at hattempt hrelease ⊢
    rw [hanswer]
    split
    · rw [hrelease, hattempt]
    · exact hattempt
  · rw [if_neg hlabel] at hattempt hrelease ⊢
    split
    · rw [hrelease, hattempt]
    · exact hattempt

/-- It does not show: positions, counts and opening times are as before, and so are all answers from
then on. -/
theorem askInVain_unnoticed (bs : Breakers) (label : String) (settings : Breaker.Settings)
    (now : Nat) :
    (∀ other, ((bs.askInVain label settings now).of other).isOpen = (bs.of other).isOpen ∧
      ((bs.askInVain label settings now).of other).failures = (bs.of other).failures ∧
      ((bs.askInVain label settings now).of other).openedAt = (bs.of other).openedAt) ∧
    ∀ uses : List (String × Breaker.Event), (∀ entry ∈ uses, now ≤ entry.2.time) →
      KeepsBlackout label settings.blackout uses →
        (bs.askInVain label settings now).answers uses = bs.answers uses := by
  refine ⟨fun other => ?_, fun uses htimes hkept => answers_eq ?_ ?_ htimes hkept⟩
  · rw [of_askInVain]
    split
    · exact (Breaker.sameButOver_askInVain _ _ _).shown_eq
    · exact ⟨rfl, rfl, rfl⟩
  · intro other hne
    rw [of_askInVain, if_neg hne.symm]
  · rw [of_askInVain, if_pos rfl]
    exact Breaker.sameButOver_askInVain _ _ _

end Breakers

end ToolGateway
