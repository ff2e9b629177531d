import Mathlib.Data.List.Induction
import ToolGateway.Breaker.Settings

/-!
# Breakers as functions of their past

A breaker is used in four ways: a call asks for admission, a trial gives its place back, a success
is reported, and a failure is. The functions here keep no state: they read off the uses of the
past how many failures followed the last success, since when the breaker is open and when its
trial began. The breaker that is kept from use to use holds exactly that (`after_eq_ofPast`), and
in a table of breakers the past of one label is all that matters to it.

Nothing is assumed about the times of the uses. Thresholds are words of 32 bits, as all settings
that are read from text are (`fits_of_parse?`).
-/

namespace ToolGateway

/-- A way of using a breaker; the settings are those of the call. -/
inductive Breaker.Use where
  /-- A call asks for admission. -/
  | attempt (settings : Breaker.Settings)
  /-- A trial gives its place back. -/
  | release
  | success
  | failure (settings : Breaker.Settings)
  deriving DecidableEq, Repr

/-- A use of a breaker and its time. -/
structure Breaker.Event where
  time : Nat
  use : Breaker.Use
  deriving DecidableEq, Repr

/-- A written word of so many bits is one. -/
theorem Json.Document.word?_le {bits n : Nat} {document : Json.Document}
    (h : document.word? bits = some n) : n ≤ Nat.pow 2 bits - 1 := by
  obtain ⟨i, hi, rfl⟩ := Option.map_eq_some_iff.mp h
  cases document with
  | number literal =>
    obtain ⟨-, hbounds⟩ := Option.filter_eq_some_iff.mp hi
    simp only [decide_eq_true_eq] at hbounds
    omega
  | _ => simp [Json.Document.integer?] at hi

/-- So is one in a field that may be missing or null. -/
theorem Record.le_of_withDefault_word? {bits n : Nat} {r : Record Json.Document} {name : String}
    (h : r.withDefault name none (Json.Document.orNull (·.word? bits)) = some (some n)) :
    n ≤ Nat.pow 2 bits - 1 := by
  unfold Record.withDefault at h
  split at h
  · simp at h
  · rename_i node _
    cases node with
    | null => simp [Json.Document.orNull] at h
    | _ =>
      simp only [Json.Document.orNull, Option.map_eq_some_iff, Option.some.injEq,
        exists_eq_right] at h
      exact Json.Document.word?_le h

namespace Breaker

/-- The threshold is a word of 32 bits. -/
def Settings.Fits (s : Settings) : Prop := s.threshold ≤ maxFailures

instance (s : Settings) : Decidable s.Fits := inferInstanceAs (Decidable (_ ≤ _))

/-- A threshold that is not given is the standard one. -/
theorem Settings.fits_ofFields {threshold : Option Nat} (seconds : Option Nat)
    (h : ∀ n ∈ threshold, n ≤ maxFailures) : (Settings.ofFields threshold seconds).Fits := by
  change (threshold.filter (0 < ·)).getD Settings.standard.threshold ≤ maxFailures
  cases hn : threshold.filter (0 < ·) with
  | none => decide
  | some n => exact h n (Option.filter_eq_some_iff.mp hn).1

/-- Settings that are read from text fit. -/
theorem Settings.fits_of_parse? {text : Option String} {s : Settings}
    (h : Settings.parse? text = some s) : s.Fits := by
  have hstandard : Settings.standard.Fits := by decide
  unfold Settings.parse? at h
  split at h
  · exact Option.some.inj h ▸ hstandard
  · obtain ⟨document, -, h⟩ := Option.bind_eq_some_iff.mp h
    cases document with
    | null => exact Option.some.inj h ▸ hstandard
    | _ =>
      simp only [Settings.ofDocument?, Option.bind_eq_bind, Option.pure_def,
        Option.bind_eq_some_iff, Option.some.injEq] at h
      obtain ⟨r, -, threshold, hthreshold, seconds, -, rfl⟩ := h
      apply Settings.fits_ofFields
      rintro n rfl
      exact Record.le_of_withDefault_word? hthreshold

/-- The settings of a use, if it has any, fit. -/
def Use.Fits : Use → Prop
  | .attempt s => s.Fits
  | .failure s => s.Fits
  | .release => True
  | .success => True

instance : DecidablePred Use.Fits := fun
  | .attempt s => inferInstanceAs (Decidable s.Fits)
  | .failure s => inferInstanceAs (Decidable s.Fits)
  | .release => instDecidableTrue
  | .success => instDecidableTrue

/-- The breaker after one use. -/
def take (b : Breaker) (e : Event) : Breaker :=
  match e.use with
  | .attempt s => (b.attempt s.blackout e.time).2
  | .release => b.release
  | .success => b.succeed
  | .failure s => b.fail s.threshold e.time

/-- The breaker after some uses, the latest first. -/
def after : List Event → Breaker
  | [] => fresh
  | e :: past => (after past).take e

/-! ## What the past says

In every list `past` the latest use comes first. -/

/-- The settings and the time of a failure. -/
def Event.failure? (e : Event) : Option (Settings × Nat) :=
  match e.use with
  | .failure s => some (s, e.time)
  | _ => none

/-- The failures since the last success, in the order in which they happened. -/
def failuresSince (past : List Event) : List (Settings × Nat) :=
  ((past.takeWhile fun e => e.use ≠ .success).filterMap Event.failure?).reverse

/-- Among the failures since the last success, the `i`-th came under a threshold of at most
`i`. -/
def Reached (failures : List (Settings × Nat)) : Prop :=
  ∃ i : Fin failures.length, failures[i].1.threshold ≤ i.val + 1

instance (failures : List (Settings × Nat)) : Decidable (Reached failures) :=
  inferInstanceAs (Decidable (∃ _ : Fin _, _))

/-- An open breaker is open since the last failure. -/
def openedSince (past : List Event) : Option Nat :=
  if Reached (failuresSince past) then (failuresSince past).getLast?.map Prod.snd else none

/-- The answer to a call when the breaker is open since `since`, if it is, and a trial is under
way since `trial`, if one is. -/
def answer (since trial : Option Nat) (blackout now : Nat) : Option Admission :=
  match since with
  | none => some .ordinary
  | some since =>
    if blackout ≤ now - since ∧ ∀ began ∈ trial, blackout ≤ now - began then some .trial else none

/-- An open breaker admits a trial once the blackout is over and the last trial is as old. -/
theorem answer_some_eq_trial_iff {since blackout now : Nat} {trial : Option Nat} :
    answer (some since) trial blackout now = some .trial ↔
      blackout ≤ now - since ∧ ∀ began ∈ trial, blackout ≤ now - began := by
  simp [answer]

/-- The last trial admitted since the latest success, failure or release. -/
def trialSince : List Event → Option Nat
  | ⟨now, .attempt s⟩ :: past =>
    if answer (openedSince past) (trialSince past) s.blackout now = some .trial then some now
    else trialSince past
  | _ => none

/-- The breaker that the past calls for. -/
def ofPast (past : List Event) : Breaker :=
  let failures := min (failuresSince past).length maxFailures
  match openedSince past with
  | none => .closed failures
  | some since => .opened failures since (trialSince past)

/-! ## One use more -/

/-- A call that asks for admission is no failure. -/
@[simp] theorem failuresSince_attempt (s : Settings) (now : Nat) (past : List Event) :
    failuresSince (⟨now, .attempt s⟩ :: past) = failuresSince past := by
  simp [failuresSince, List.filterMap_cons, Event.failure?]

/-- A trial that gives its place back is no failure. -/
@[simp] theorem failuresSince_release (now : Nat) (past : List Event) :
    failuresSince (⟨now, .release⟩ :: past) = failuresSince past := by
  simp [failuresSince, List.filterMap_cons, Event.failure?]

/-- A success forgets all failures. -/
@[simp] theorem failuresSince_success (now : Nat) (past : List Event) :
    failuresSince (⟨now, .success⟩ :: past) = [] := by
  simp [failuresSince]

/-- A failure comes behind those before it. -/
@[simp] theorem failuresSince_failure (s : Settings) (now : Nat) (past : List Event) :
    failuresSince (⟨now, .failure s⟩ :: past) = failuresSince past ++ [(s, now)] := by
  simp [failuresSince, Event.failure?]

/-- One failure more reaches a threshold if that was reached before or it comes under a low one. -/
theorem reached_concat (failures : List (Settings × Nat)) (s : Settings) (now : Nat) :
    Reached (failures ++ [(s, now)]) ↔
      Reached failures ∨ s.threshold ≤ failures.length + 1 := by
  constructor
  · rintro ⟨⟨i, hi⟩, hle⟩
    have hi' : i < failures.length + 1 := by simpa using hi
    by_cases hlast : i = failures.length
    · subst i
      exact Or.inr (by simpa using hle)
    · have hlt : i < failures.length := by omega
      refine Or.inl ⟨⟨i, hlt⟩, ?_⟩
      simpa [List.getElem_append_left hlt] using hle
  · rintro (⟨⟨i, hi⟩, hle⟩ | hle)
    · refine ⟨⟨i, by simp; omega⟩, ?_⟩
      simpa [List.getElem_append_left hi] using hle
    · exact ⟨⟨failures.length, by simp⟩, by simpa using hle⟩

/-- What does not change the failures does not open a breaker. -/
theorem openedSince_congr {past past' : List Event}
    (h : failuresSince past = failuresSince past') : openedSince past = openedSince past' := by
  rw [openedSince, openedSince, h]

/-- A breaker is open once a failure reached its threshold. -/
theorem isSome_openedSince (past : List Event) :
    (openedSince past).isSome ↔ Reached (failuresSince past) := by
  unfold openedSince
  split
  · rename_i h
    have hne : failuresSince past ≠ [] := by
      obtain ⟨i, -⟩ := h
      exact List.ne_nil_of_length_pos (Nat.zero_lt_of_lt i.isLt)
    simp [h, hne]
  · simp [*]

/-- A failure opens the breaker, or opens it anew, once a threshold is reached. -/
theorem openedSince_failure (s : Settings) (now : Nat) (past : List Event) :
    openedSince (⟨now, .failure s⟩ :: past) =
      if (openedSince past).isSome ∨ s.threshold ≤ (failuresSince past).length + 1 then some now
      else none := by
  rw [openedSince, failuresSince_failure]
  simp only [reached_concat, isSome_openedSince, List.getLast?_concat, Option.map_some]

/-- No trial is under way at a closed breaker. -/
theorem trialSince_eq_none {past : List Event} (h : openedSince past = none) :
    trialSince past = none := by
  fun_induction trialSince past with
  | case1 now s past htrial ih =>
    rw [openedSince_congr (failuresSince_attempt s now past)] at h
    rw [h] at htrial
    simp [answer] at htrial
  | case2 now s past _ ih =>
    exact ih (by rwa [openedSince_congr (failuresSince_attempt s now past)] at h)
  | case3 => rfl

/-! ## The breaker that is kept -/

/-- A trial keeps others out for one blackout. -/
theorem trialBusy_eq_false_iff (trial : Option Nat) (blackout now : Nat) :
    trialBusy blackout now trial = false ↔ ∀ began ∈ trial, blackout ≤ now - began := by
  cases trial <;> simp [trialBusy]

/-- A breaker answers by its opening time and its trial alone. -/
theorem attempt_fst (b : Breaker) (blackout now : Nat) :
    (b.attempt blackout now).1 = answer b.openedAt b.trialAt blackout now := by
  cases b with
  | closed n => rfl
  | opened n since trial =>
    simp only [attempt, openedAt, trialAt, answer, ← trialBusy_eq_false_iff]
    by_cases hover : now - since < blackout
    · simp [hover, Nat.not_le.mpr hover]
    · by_cases hbusy : trialBusy blackout now trial
      · simp [hbusy]
      · simp [hover, hbusy, Nat.not_lt.mp hover]

/-- A call that is admitted as a trial takes the place of the one before it, and no other call
leaves a trace. -/
theorem attempt_snd_opened (n since blackout now : Nat) (trial : Option Nat) :
    ((opened n since trial).attempt blackout now).2 =
      .opened n since
        (if answer (some since) trial blackout now = some .trial then some now else trial) := by
  have h := attempt_fst (.opened n since trial) blackout now
  simp only [openedAt, trialAt] at h
  rw [← h]
  simp only [attempt]
  split <;> simp

/-- The breaker that the past calls for holds what the past says. -/
@[simp] theorem failures_ofPast (past : List Event) :
    (ofPast past).failures = min (failuresSince past).length maxFailures := by
  unfold ofPast
  split <;> rfl

@[simp] theorem openedAt_ofPast (past : List Event) :
    (ofPast past).openedAt = openedSince past := by
  unfold ofPast
  split <;> simp_all [openedAt]

@[simp] theorem trialAt_ofPast (past : List Event) :
    (ofPast past).trialAt = trialSince past := by
  unfold ofPast
  split
  · rename_i h
    exact (trialSince_eq_none h).symm
  · rfl

/-- One failure more is one more to count, as far as failures are counted. -/
theorem countUp_min (n : Nat) : countUp (min n maxFailures) = min (n + 1) maxFailures := by
  unfold countUp
  omega

/-- A use changes the breaker as it changes the past. -/
theorem take_ofPast (past : List Event) (e : Event) (hfits : e.use.Fits) :
    (ofPast past).take e = ofPast (e :: past) := by
  obtain ⟨now, use⟩ := e
  cases use with
  | attempt s =>
    have hsame := openedSince_congr (failuresSince_attempt s now past)
    cases hopen : openedSince past with
    | none => simp [ofPast, take, hsame, hopen, attempt]
    | some since => simp [ofPast, take, hsame, hopen, attempt_snd_opened, trialSince]
  | release =>
    have hsame := openedSince_congr (failuresSince_release now past)
    cases hopen : openedSince past with
    | none => simp [ofPast, take, hsame, hopen, release]
    | some since => simp [ofPast, take, hsame, hopen, release, trialSince]
  | success =>
    have hclosed : openedSince (⟨now, .success⟩ :: past) = none := by
      rw [← Option.not_isSome_iff_eq_none, isSome_openedSince, failuresSince_success]
      rintro ⟨i, -⟩
      exact i.elim0
    simp [ofPast, take, hclosed, succeed, fresh]
  | failure s =>
    have hle : s.threshold ≤ maxFailures := hfits
    cases hopen : openedSince past with
    | none =>
      -- The count stands still at its bound, but no threshold lies beyond it.
      have hcount : s.threshold ≤ min ((failuresSince past).length + 1) maxFailures ↔
          s.threshold ≤ (failuresSince past).length + 1 := by
        omega
      by_cases hreach : s.threshold ≤ (failuresSince past).length + 1
      · simp [ofPast, take, fail, hopen, openedSince_failure, countUp_min, hcount, hreach,
          trialSince]
      · simp [ofPast, take, fail, hopen, openedSince_failure, countUp_min, hcount, hreach]
    | some since =>
      simp [ofPast, take, fail, hopen, openedSince_failure, countUp_min, trialSince]

/-- The breaker that is kept is the one that the past calls for. -/
theorem after_eq_ofPast (past : List Event) (hfits : ∀ e ∈ past, e.use.Fits) :
    after past = ofPast past := by
  induction past with
  | nil => rfl
  | cons e past ih =>
    rw [after, ih fun e he => hfits e (List.mem_cons_of_mem _ he)]
    exact take_ofPast past e (hfits e List.mem_cons_self)

/-- Taking uses one after the other, the first one first. -/
theorem foldl_take_fresh (uses : List Event) : uses.foldl take fresh = after uses.reverse := by
  induction uses using List.reverseRecOn with
  | nil => rfl
  | append_singleton uses e ih =>
    rw [List.foldl_append, ih, List.reverse_concat]
    rfl

end Breaker

namespace Breakers

/-- The breakers after one use of the breaker of a label. -/
def take (bs : Breakers) (label : String) (e : Breaker.Event) : Breakers :=
  match e.use with
  | .attempt s => (bs.attempt label s e.time).2
  | .release => bs.release label
  | .success => bs.succeed label
  | .failure s => bs.fail label s e.time

/-- The breakers after a list of uses, the first one first, each with the label it concerns. -/
def takeAll (bs : Breakers) (log : List (String × Breaker.Event)) : Breakers :=
  log.foldl (fun bs entry => bs.take entry.1 entry.2) bs

/-- The uses of the breaker of one label. -/
def usesOf (label : String) (log : List (String × Breaker.Event)) : List Breaker.Event :=
  (log.filter (·.1 = label)).map Prod.snd

/-- The uses of a label in a log that goes on. -/
@[simp] theorem usesOf_append (label : String) (log more : List (String × Breaker.Event)) :
    usesOf label (log ++ more) = usesOf label log ++ usesOf label more := by
  simp [usesOf]

/-- A use of a label in a log is an entry of the log. -/
theorem mem_usesOf {label : String} {log : List (String × Breaker.Event)} {e : Breaker.Event} :
    e ∈ usesOf label log ↔ (label, e) ∈ log := by
  simp [usesOf]

/-- A use puts one breaker in place. -/
theorem take_eq_insert (bs : Breakers) (label : String) (e : Breaker.Event) :
    bs.take label e = Table.insert bs label ((bs.of label).take e) := by
  obtain ⟨now, use⟩ := e
  cases use <;> rfl

/-- A use concerns the breaker of its label and no other. -/
theorem of_take (bs : Breakers) (label other : String) (e : Breaker.Event) :
    (bs.take label e).of other = if label = other then (bs.of other).take e else bs.of other := by
  rw [take_eq_insert, of_insert]
  by_cases h : label = other
  · rw [if_pos h, if_pos h, h]
  · rw [if_neg h, if_neg h]

/-- The breaker of a label goes through the uses of this label. -/
theorem of_takeAll (bs : Breakers) (label : String) (log : List (String × Breaker.Event)) :
    (bs.takeAll log).of label = (usesOf label log).foldl Breaker.take (bs.of label) := by
  induction log generalizing bs with
  | nil => rfl
  | cons entry log ih =>
    change ((bs.take entry.1 entry.2).takeAll log).of label = _
    rw [ih, of_take]
    by_cases h : entry.1 = label <;> simp [usesOf, h]

/-- The breakers of a log read it one entry after the other. -/
theorem takeAll_append (bs : Breakers) (log more : List (String × Breaker.Event)) :
    bs.takeAll (log ++ more) = (bs.takeAll log).takeAll more := List.foldl_append

/-- A breaker of a table answers by its own opening time and trial. -/
theorem attempt_fst (bs : Breakers) (label : String) (s : Breaker.Settings) (now : Nat) :
    (bs.attempt label s now).1 =
      Breaker.answer (bs.of label).openedAt (bs.of label).trialAt s.blackout now :=
  Breaker.attempt_fst (bs.of label) s.blackout now

/-- The breaker of a label is the one that the uses of this label call for. -/
theorem of_takeAll_nil (log : List (String × Breaker.Event))
    (hfits : ∀ entry ∈ log, entry.2.use.Fits) (label : String) :
    (takeAll [] log).of label = Breaker.ofPast (usesOf label log).reverse := by
  have huses : ∀ e ∈ (usesOf label log).reverse, e.use.Fits := fun e he =>
    hfits (label, e) (mem_usesOf.mp (List.mem_reverse.mp he))
  rw [of_takeAll, ← Breaker.after_eq_ofPast _ huses]
  exact Breaker.foldl_take_fresh (usesOf label log)

/-- After any log the breaker of a label holds what the uses of this label alone say: it counts
the failures since the last success as far as it can, it is open if the `i`-th of these came under
a threshold of at most `i`, and then since the last of them, its trial is the last one admitted
since the latest report or release, and it answers by these two times. -/
theorem state_of_uses (log : List (String × Breaker.Event))
    (hfits : ∀ entry ∈ log, entry.2.use.Fits) (label : String) :
    let past := (usesOf label log).reverse
    let failures := Breaker.failuresSince past
    let bs := takeAll [] log
    (bs.of label).failures = min failures.length Breaker.maxFailures ∧
      ((bs.of label).isOpen ↔ ∃ i : Fin failures.length, failures[i].1.threshold ≤ i.val + 1) ∧
      (bs.of label).openedAt =
        (if (bs.of label).isOpen then failures.getLast?.map Prod.snd else none) ∧
      (bs.of label).trialAt = Breaker.trialSince past ∧
      ∀ (s : Breaker.Settings) (now : Nat), (bs.attempt label s now).1 =
        Breaker.answer (bs.of label).openedAt (Breaker.trialSince past) s.blackout now := by
  intro past failures bs
  have hof : bs.of label = Breaker.ofPast past := of_takeAll_nil log hfits label
  have hopen : (bs.of label).isOpen ↔ Breaker.Reached failures := by
    rw [hof, Breaker.isOpen, Breaker.openedAt_ofPast]
    exact Breaker.isSome_openedSince past
  refine ⟨?_, hopen, ?_, ?_, ?_⟩
  · rw [hof, Breaker.failures_ofPast]
  · rw [if_congr hopen rfl rfl, hof, Breaker.openedAt_ofPast]
    rfl
  · rw [hof, Breaker.trialAt_ofPast]
  · intro s now
    rw [attempt_fst, hof, Breaker.trialAt_ofPast]

/-- Two failures at one label, the second under the threshold two, with a success of another label
between them, then a trial, which keeps a call out until it is one blackout old. -/
theorem state_of_uses_reopened :
    let log : List (String × Breaker.Event) :=
      [("a", ⟨1, .failure ⟨3, 10⟩⟩), ("b", ⟨2, .success⟩), ("a", ⟨3, .failure ⟨2, 10⟩⟩),
        ("a", ⟨13, .attempt ⟨2, 10⟩⟩)]
    (∀ entry ∈ log, entry.2.use.Fits) ∧ ((takeAll [] log).of "a").failures = 2 ∧
      ((takeAll [] log).of "a").isOpen ∧ ((takeAll [] log).of "a").openedAt = some 3 ∧
      ((takeAll [] log).of "a").trialAt = some 13 ∧
      ((takeAll [] log).attempt "a" ⟨2, 10⟩ 22).1 = none ∧
      ((takeAll [] log).attempt "a" ⟨2, 10⟩ 23).1 = some .trial := by
  intro log
  have hfits : ∀ entry ∈ log, entry.2.use.Fits := by decide
  obtain ⟨hfailures, hopen, hsince, htrial, hanswer⟩ := state_of_uses log hfits "a"
  have hisOpen : ((takeAll [] log).of "a").isOpen := hopen.mpr (by decide)
  rw [if_pos hisOpen] at hsince
  have hopened : ((takeAll [] log).of "a").openedAt = some 3 := hsince.trans (by decide)
  refine ⟨hfits, hfailures.trans (by decide), hisOpen, hopened, htrial.trans (by decide), ?_, ?_⟩
  · rw [hanswer, hopened]
    decide
  · rw [hanswer, hopened]
    decide

end Breakers

end ToolGateway
