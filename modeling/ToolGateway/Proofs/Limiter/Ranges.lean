import Mathlib.Data.List.Induction
import ToolGateway.Limiter
import ToolGateway.Proofs.Table.Insertion

/-!
# Numbers of a limiter stay in range

Calls share a limiter. A call reads the clock first, then finds the window of its key or begins it,
and has its turn at the window some time later; so calls take their turns with times in any order,
also before the window began, and the first turn at a window need not be that of the call that began
it. Limits and windows may differ from call to call.

Whatever came before, the numbers of a call stay in range (`Use.InRange`): the count goes up by one
at most and only below the limit, the window does not go back and does not begin later than the call
unless it did already, and it is over at some time within its length. A window that is kept has a
count of no more than the greatest limit that its key was used with.
-/

namespace ToolGateway.Limiter

/-- A call to a limiter with its limit and window; `time` is when it read the clock. -/
structure Use where
  key : String
  limit : Nat
  window : Nat
  time : Nat
  deriving DecidableEq, Repr

/-- What one of the calls that share a limiter does. -/
inductive Action where
  /-- The window of the key is found, or begins. -/
  | arrive (use : Use)
  /-- The call has its turn at the window. -/
  | turn (use : Use)
  deriving DecidableEq, Repr

/-- The limiter after an action. -/
def act (limiter : Limiter) : Action → Limiter
  | .arrive use => limiter.insert use.key (limiter.windowOf use.key use.time)
  | .turn use => (limiter.spend use.key use.limit use.window use.time).2

/-- The limiter after a list of actions, the first one first. -/
def actAll (limiter : Limiter) (actions : List Action) : Limiter := actions.foldl act limiter

/-- The limit that an action puts to the window of a key. -/
def Action.limitOf (key : String) : Action → Nat
  | .arrive _ => 0
  | .turn use => if use.key = key then use.limit else 0

/-- The greatest limit that was put to the window of a key. -/
def greatestLimit (key : String) (actions : List Action) : Nat :=
  (actions.map (Action.limitOf key)).foldl max 0

/-- A call has a limit of 32 bits and a window of some length. -/
structure Use.Proper (use : Use) : Prop where
  limit_lt : use.limit < UInt32.size
  window_pos : 0 < use.window

/-- What the turn of a call makes of the window that it finds, and how it is answered: all its
numbers are in range. -/
structure Use.InRange (use : Use) (found left : Window) (verdict : Verdict) : Prop where
  /-- A call that passes is counted, and what remains of the limit is exact. -/
  passed : verdict.permitted = true →
    left.count = (found.roll use.window use.time).count + 1 ∧
      verdict.remaining + left.count = use.limit
  refused : verdict.permitted = false →
    left.count = (found.roll use.window use.time).count ∧ verdict.remaining = 0
  /-- The window does not go back. -/
  not_back : found.startedAt ≤ left.startedAt
  /-- The window does not begin later than it did or than the call came. -/
  not_ahead : left.startedAt ≤ max found.startedAt use.time
  reset_pos : 0 < verdict.resetAfter
  reset_le : verdict.resetAfter ≤ use.window

/-! ## One window -/

section

variable {window now elapsed : Nat}

/-- A window that is over is followed by one that contains the time of the call. -/
theorem windowStart_bounds (hwindow : 0 < window) (helapsed : elapsed ≤ now) :
    now - elapsed ≤ windowStart now elapsed window ∧ windowStart now elapsed window ≤ now ∧
      now < windowStart now elapsed window + window := by
  have hoffset : elapsed % window ≤ elapsed := Nat.mod_le _ _
  have hinside : elapsed % window < window := Nat.mod_lt _ hwindow
  unfold windowStart
  rw [if_neg (Nat.ne_of_gt hwindow)]
  split
  · omega
  · omega

/-- A window that rolls does not go back, nor beyond the time of the call unless it began there. -/
theorem roll_startedAt (hwindow : 0 < window) (w : Window) (now : Nat) :
    w.startedAt ≤ (w.roll window now).startedAt ∧
      (w.roll window now).startedAt ≤ max w.startedAt now := by
  unfold Window.roll
  split
  · obtain ⟨hback, hahead, -⟩ := windowStart_bounds hwindow (Nat.sub_le now w.startedAt)
    dsimp only
    omega
  · exact ⟨Nat.le_refl _, Nat.le_max_left _ _⟩

/-- A window that has rolled is not over. -/
theorem sub_roll_startedAt_lt (hwindow : 0 < window) (w : Window) (now : Nat) :
    now - (w.roll window now).startedAt < window := by
  unfold Window.roll
  split
  · obtain ⟨-, -, hinside⟩ := windowStart_bounds hwindow (Nat.sub_le now w.startedAt)
    dsimp only
    omega
  · omega

/-- The numbers of a turn are in range. -/
theorem Use.inRange (use : Use) (hwindow : 0 < use.window) (found : Window) :
    let taken := (found.roll use.window use.time).take use.limit use.window use.time
    use.InRange found taken.2 taken.1 := by
  intro taken
  obtain ⟨hback, hahead⟩ := roll_startedAt hwindow found use.time
  have hreset : 0 < use.window - (use.time - (found.roll use.window use.time).startedAt) :=
    Nat.sub_pos_of_lt (sub_roll_startedAt_lt hwindow found use.time)
  simp only [taken, Window.take]
  split
  · exact ⟨nofun, fun _ => ⟨rfl, rfl⟩, hback, hahead, hreset, Nat.sub_le _ _⟩
  · next hroom =>
    exact ⟨fun _ => ⟨rfl, Nat.sub_add_cancel (Nat.lt_of_not_le hroom)⟩, nofun, hback, hahead,
      hreset, Nat.sub_le _ _⟩

/-- A turn leaves a count of no more than it found, or than its limit. -/
theorem count_take_le (found : Window) (limit window now : Nat) :
    ((found.roll window now).take limit window now).2.count ≤ max found.count limit := by
  have hroll : (found.roll window now).count ≤ found.count := by
    unfold Window.roll
    split
    · exact Nat.zero_le _
    · exact Nat.le_refl _
  simp only [Window.take]
  split
  · exact Nat.le_trans hroll (Nat.le_max_left _ _)
  · next hroom => exact Nat.le_trans (Nat.lt_of_not_le hroom) (Nat.le_max_right _ _)

end

/-! ## All windows -/

/-- A call that has its turn as soon as it arrives is a call on its own. -/
theorem act_turn_of_arrive (limiter : Limiter) (use : Use) :
    (limiter.act (.arrive use)).act (.turn use) = limiter.act (.turn use) := by
  have hfound : (limiter.act (.arrive use)).windowOf use.key use.time =
      limiter.windowOf use.key use.time := by
    rw [act, windowOf, Table.get?_insert_self, Option.getD_some]
  simp only [act, spend] at hfound ⊢
  rw [hfound, Table.insert_insert]

/-- The greatest limit after one more action. -/
theorem greatestLimit_concat (key : String) (actions : List Action) (action : Action) :
    greatestLimit key (actions ++ [action]) =
      max (greatestLimit key actions) (action.limitOf key) := by
  rw [greatestLimit, List.map_append, List.foldl_append]
  rfl

/-- Limits of 32 bits have a greatest one of 32 bits. -/
theorem greatestLimit_lt (key : String) {actions : List Action}
    (h : ∀ use, Action.turn use ∈ actions → use.limit < UInt32.size) :
    greatestLimit key actions < UInt32.size := by
  have hzero : 0 < UInt32.size := by decide
  induction actions using List.reverseRecOn with
  | nil => exact hzero
  | append_singleton actions action ih =>
    rw [greatestLimit_concat, Nat.max_lt]
    refine ⟨ih fun use huse => h use (List.mem_append_left _ huse), ?_⟩
    cases action with
    | arrive use => exact hzero
    | turn use =>
      rw [Action.limitOf]
      split
      · exact h use (List.mem_append_right _ (List.mem_singleton_self _))
      · exact hzero

/-- A window that is found or begins has no greater count than one that is kept. -/
theorem count_windowOf_le {limiter : Limiter} {key : String} {bound : Nat}
    (h : ∀ kept, limiter.get? key = some kept → kept.count ≤ bound) (now : Nat) :
    (limiter.windowOf key now).count ≤ bound := by
  unfold windowOf
  cases hkept : limiter.get? key with
  | none => exact Nat.zero_le _
  | some kept => exact h kept hkept

/-- An action leaves a key with a count of no more than before, or than the limit it puts. -/
theorem count_act_le {limiter : Limiter} {key : String} {bound : Nat}
    (h : ∀ kept, limiter.get? key = some kept → kept.count ≤ bound) (action : Action)
    {left : Window} (hleft : (limiter.act action).get? key = some left) :
    left.count ≤ max bound (action.limitOf key) := by
  cases action with
  | arrive use =>
    rw [act, Table.get?_insert] at hleft
    split at hleft
    · next hkey =>
      obtain rfl := Option.some.inj hleft
      subst hkey
      exact Nat.le_trans (count_windowOf_le h use.time) (Nat.le_max_left _ _)
    · exact Nat.le_trans (h left hleft) (Nat.le_max_left _ _)
  | turn use =>
    by_cases hkey : use.key = key
    · subst hkey
      have hcount := count_take_le (limiter.windowOf use.key use.time) use.limit use.window use.time
      have hfound := count_windowOf_le h use.time
      rw [act, spend] at hleft
      obtain rfl := Option.some.inj ((Table.get?_insert_self _ _ _).symm.trans hleft)
      rw [Action.limitOf, if_pos rfl]
      omega
    · rw [act, get?_spend_of_ne _ _ _ _ hkey] at hleft
      exact Nat.le_trans (h left hleft) (Nat.le_max_left _ _)

/-- No count exceeds the greatest limit that was put to its window. -/
theorem count_le_greatestLimit {actions : List Action} {key : String} {kept : Window}
    (h : (actAll [] actions).get? key = some kept) : kept.count ≤ greatestLimit key actions := by
  induction actions using List.reverseRecOn generalizing kept with
  | nil => cases h
  | append_singleton actions action ih =>
    rw [actAll, List.foldl_append] at h
    rw [greatestLimit_concat]
    exact count_act_le (fun _ hkept => ih hkept) action h

/-- Whatever calls came before, with any limits of 32 bits and any windows, and in whatever order
they read the clock and had their turns, the counts that are kept are within the greatest limit of
their keys, and the numbers of a call that has its turn now are in range. -/
theorem turn_in_range {past : List Action} {use : Use}
    (hpast : ∀ earlier, Action.turn earlier ∈ past → earlier.Proper) (huse : use.Proper) :
    let limiter := actAll [] past
    (∀ key kept, limiter.get? key = some kept →
      kept.count ≤ greatestLimit key past ∧ kept.count < UInt32.size) ∧
    ∃ verdict left,
      limiter.spend use.key use.limit use.window use.time =
        (verdict, limiter.insert use.key left) ∧
      use.InRange (limiter.windowOf use.key use.time) left verdict ∧
      left.count ≤ max (greatestLimit use.key past) use.limit ∧ left.count < UInt32.size := by
  intro limiter
  have hgreatest (key : String) : greatestLimit key past < UInt32.size :=
    greatestLimit_lt key fun earlier hearlier => (hpast earlier hearlier).limit_lt
  constructor
  · intro key kept hkept
    have hcount := count_le_greatestLimit hkept
    exact ⟨hcount, Nat.lt_of_le_of_lt hcount (hgreatest key)⟩
  · let found := limiter.windowOf use.key use.time
    let taken := (found.roll use.window use.time).take use.limit use.window use.time
    have hfound : found.count ≤ greatestLimit use.key past :=
      count_windowOf_le (fun _ hkept => count_le_greatestLimit hkept) use.time
    have hleft : taken.2.count ≤ max (greatestLimit use.key past) use.limit :=
      calc taken.2.count
        _ ≤ max found.count use.limit := count_take_le found use.limit use.window use.time
        _ ≤ max (greatestLimit use.key past) use.limit := by omega
    refine ⟨taken.1, taken.2, rfl, use.inRange huse.window_pos found, hleft, ?_⟩
    exact Nat.lt_of_le_of_lt hleft (Nat.max_lt.mpr ⟨hgreatest use.key, huse.limit_lt⟩)

/-- A call that read the clock before the window of its key began, and comes with a lower limit and
a shorter window than the calls before it, is refused until its own window would be over. -/
theorem turn_in_range_of_early_call :
    let past : List Action := [.arrive ⟨"a", 3, 5, 10⟩, .turn ⟨"a", 2, 5, 7⟩, .turn ⟨"a", 3, 5, 10⟩]
    let use : Use := ⟨"a", 1, 4, 9⟩
    let limiter := actAll [] past
    (∀ earlier, Action.turn earlier ∈ past → earlier.Proper) ∧ use.Proper ∧
      limiter.get? "a" = some ⟨10, 2⟩ ∧ greatestLimit "a" past = 3 ∧
      ∃ verdict left, limiter.spend "a" 1 4 9 = (verdict, limiter.insert "a" left) ∧
        use.InRange ⟨10, 2⟩ left verdict ∧ verdict.permitted = false ∧ left.count ≤ 3 := by
  intro past use limiter
  have hpast : ∀ earlier, Action.turn earlier ∈ past → earlier.Proper := by
    intro earlier hearlier
    simp only [past, List.mem_cons, List.not_mem_nil, reduceCtorEq, Action.turn.injEq, false_or,
      or_false] at hearlier
    rcases hearlier with rfl | rfl
    · exact ⟨by decide, by decide⟩
    · exact ⟨by decide, by decide⟩
  have huse : use.Proper := ⟨by decide, by decide⟩
  have hkept : limiter.get? "a" = some ⟨10, 2⟩ := by decide
  have hgreatest : greatestLimit "a" past = 3 := by decide
  obtain ⟨-, verdict, left, hspend, hrange, hcount, -⟩ := turn_in_range hpast huse
  have hverdict : verdict.permitted = false := by
    rw [← show (limiter.spend "a" 1 4 9).1 = verdict from congrArg Prod.fst hspend]
    decide
  exact ⟨hpast, huse, hkept, hgreatest, verdict, left, hspend, hrange, hverdict, hcount⟩

end ToolGateway.Limiter
