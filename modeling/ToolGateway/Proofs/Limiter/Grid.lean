import Mathlib.Data.List.Induction
import ToolGateway.Limiter

/-!
# Windows on a grid

The limiter keeps one window and one count for each key. What it decides can be said without
either: the first call of a key lays down a grid of windows, a call falls into the window of its
time, and it passes if it is not preceded by `limit` calls in that window, passed or refused. The
window that is kept is the one of the last call, with its calls counted up to the limit
(`OnGrid`), and every call keeps it so.

The length of a window is below the bound from which on offsets are not resolved; longer windows
may leave the grid.
-/

namespace ToolGateway.Limiter

/-- Somebody's call to a limiter, and when it came. -/
structure Attempt (κ : Type) where
  key : κ
  time : Nat
  deriving DecidableEq, Repr

/-- The limiter after a list of calls, the first one first. -/
def spendAll (limiter : Limiter) (limit window : Nat) (attempts : List (Attempt String)) :
    Limiter :=
  attempts.foldl (fun l attempt => (l.spend attempt.key limit window attempt.time).2) limiter

/-- The verdicts on a list of calls, each beside its call. -/
def ledger (limiter : Limiter) (limit window : Nat) :
    List (Attempt String) → List (Attempt String × Verdict)
  | [] => []
  | attempt :: rest =>
    (attempt, (limiter.spend attempt.key limit window attempt.time).1) ::
      ledger (limiter.spend attempt.key limit window attempt.time).2 limit window rest

/-! ## The grid -/

section

variable {κ : Type} [DecidableEq κ]

/-- The times of the calls of one key. -/
def timesOf (key : κ) (attempts : List (Attempt κ)) : List Nat :=
  (attempts.filter (·.key = key)).map Attempt.time

/-- The times of a key in a list that goes on. -/
@[simp] theorem timesOf_append (key : κ) (attempts more : List (Attempt κ)) :
    timesOf key (attempts ++ more) = timesOf key attempts ++ timesOf key more := by
  simp [timesOf]

/-- One call has its time, at its own key. -/
@[simp] theorem timesOf_singleton (key : κ) (attempt : Attempt κ) :
    timesOf key [attempt] = if attempt.key = key then [attempt.time] else [] := by
  by_cases h : attempt.key = key <;> simp [timesOf, h]

/-- The times of calls that come one after the other do so for each key. -/
theorem pairwise_timesOf {attempts : List (Attempt κ)}
    (h : attempts.Pairwise (·.time ≤ ·.time)) (key : κ) :
    (timesOf key attempts).Pairwise (· ≤ ·) :=
  List.pairwise_map.mpr (h.filter _)

end

/-- Where the grid of a key begins that had calls at `times` before one at `now`. -/
def anchorOf (times : List Nat) (now : Nat) : Nat := times.headD now

/-- How many of some calls fall into the `k`-th window of the grid that begins at `anchor`. -/
def callsIn (anchor window k : Nat) (times : List Nat) : Nat :=
  times.countP fun t => (t - anchor) / window = k

/-- The window into which a call at `now` falls, counted from the beginning of its grid. -/
def indexOf (window : Nat) (times : List Nat) (now : Nat) : Nat :=
  (now - anchorOf times now) / window

/-- The place of a call at `now` among the calls in its window, the first of which has place 1. -/
def placeOf (window : Nat) (times : List Nat) (now : Nat) : Nat :=
  callsIn (anchorOf times now) window (indexOf window times now) times + 1

/-- The verdict on a call at `now` of a key that had calls at `times` before is the one that the
grid calls for. -/
structure Judged (limit window : Nat) (times : List Nat) (now : Nat) (verdict : Verdict) :
    Prop where
  permitted : verdict.permitted = true ↔ placeOf window times now ≤ limit
  remaining : verdict.remaining =
    if verdict.permitted then limit - placeOf window times now else 0
  /-- The next window of the grid begins when the verdict says. -/
  reset : now + verdict.resetAfter =
    anchorOf times now + (indexOf window times now + 1) * window

/-- The window that is kept after calls of one key: that of the last one. -/
def gridWindow (limit window : Nat) (times : List Nat) : Option Window :=
  times.getLast?.map fun last =>
    ⟨anchorOf times last + indexOf window times last * window,
      min (callsIn (anchorOf times last) window (indexOf window times last) times) limit⟩

/-- The limiter keeps for each key the window of its last call in `past`. -/
def OnGrid (limit window : Nat) (limiter : Limiter) (past : List (Attempt String)) : Prop :=
  ∀ key, limiter.get? key = gridWindow limit window (timesOf key past)

/-! ## One window -/

variable {limit window now : Nat} {times : List Nat}

/-- A window that begins on a grid rolls to the one of its time, and keeps its count only if that
is the same. -/
theorem roll_of_grid (anchor j count : Nat) (hwindow : 0 < window)
    (hbound : window < UInt64.size) (hstarted : anchor + j * window ≤ now) :
    (Window.mk (anchor + j * window) count).roll window now =
      ⟨anchor + (now - anchor) / window * window,
        if (now - anchor) / window = j then count else 0⟩ := by
  obtain ⟨elapsed, rfl⟩ := Nat.exists_eq_add_of_le hstarted
  have hindex : (anchor + j * window + elapsed - anchor) / window = j + elapsed / window := by
    rw [Nat.add_assoc, Nat.add_sub_cancel_left, Nat.add_comm, Nat.add_mul_div_right _ _ hwindow,
      Nat.add_comm]
  have helapsed : anchor + j * window + elapsed - (anchor + j * window) = elapsed :=
    Nat.add_sub_cancel_left _ _
  simp only [Window.roll, hindex, helapsed]
  by_cases hover : window ≤ elapsed
  · have hoffset : elapsed % window < offsetBound :=
      Nat.lt_trans (Nat.mod_lt _ hwindow) hbound
    have hnext : j + elapsed / window ≠ j := by
      have := Nat.div_pos hover hwindow
      omega
    have hstart : anchor + j * window + elapsed - elapsed % window =
        anchor + (j + elapsed / window) * window := by
      have := Nat.div_add_mod' elapsed window
      rw [Nat.add_mul]
      omega
    rw [if_pos hover, if_neg hnext, windowStart, if_neg (Nat.ne_of_gt hwindow), if_pos hoffset,
      hstart]
  · rw [if_neg hover, Nat.div_eq_of_lt (Nat.lt_of_not_le hover)]
    simp

/-- A call in a window with room passes, and no other does; either way the window tells when it
is over. -/
theorem take_of_grid {anchor : Nat} (limit count : Nat) (hwindow : 0 < window) (hstarted : anchor ≤ now) :
    let k := (now - anchor) / window
    let taken := (Window.mk (anchor + k * window) (min count limit)).take limit window now
    (taken.1.permitted = true ↔ count + 1 ≤ limit) ∧
      taken.1.remaining = (if taken.1.permitted then limit - (count + 1) else 0) ∧
      now + taken.1.resetAfter = anchor + (k + 1) * window ∧
      taken.2 = ⟨anchor + k * window, min (count + 1) limit⟩ := by
  intro k taken
  have hoffset : k * window + (now - anchor) % window = now - anchor :=
    Nat.div_add_mod' (now - anchor) window
  have hinside := Nat.mod_lt (now - anchor) hwindow
  have hreset : now + (window - (now - (anchor + k * window))) = anchor + (k + 1) * window := by
    rw [Nat.add_mul, Nat.one_mul]
    omega
  simp only [taken, Window.take]
  by_cases hfull : limit ≤ count
  · rw [if_pos (by omega)]
    refine ⟨by simpa using Nat.lt_succ_of_le hfull, rfl, hreset, ?_⟩
    rw [Nat.min_eq_right hfull, Nat.min_eq_right (Nat.le_succ_of_le hfull)]
  · have hroom : count + 1 ≤ limit := by omega
    rw [if_neg (by omega), Nat.min_eq_left (by omega : count ≤ limit), Nat.min_eq_left hroom]
    exact ⟨by simpa using hroom, rfl, hreset, rfl⟩

/-- The last of some times in order is the greatest. -/
theorem le_of_getLast? {last : Nat} (hsorted : times.Pairwise (· ≤ ·))
    (hlast : times.getLast? = some last) : ∀ t ∈ times, t ≤ last := by
  obtain ⟨before, rfl⟩ := List.getLast?_eq_some_iff.mp hlast
  intro t ht
  rcases List.mem_append.mp ht with ht | ht
  · exact (List.pairwise_append.mp hsorted).2.2 t ht last (List.mem_singleton_self _)
  · exact Nat.le_of_eq (List.mem_singleton.mp ht)

/-- A grid begins no later than its calls. -/
theorem anchorOf_le (hlate : ∀ t ∈ times, t ≤ now) : anchorOf times now ≤ now := by
  cases times with
  | nil => exact Nat.le_refl now
  | cons t rest => exact hlate t List.mem_cons_self

/-- No call falls into a window behind that of the last one. -/
theorem callsIn_eq_zero {anchor k last : Nat} (hlate : ∀ t ∈ times, t ≤ last)
    (hk : (last - anchor) / window < k) : callsIn anchor window k times = 0 := by
  rw [callsIn, List.countP_eq_zero]
  intro t ht
  have hle : (t - anchor) / window ≤ (last - anchor) / window :=
    Nat.div_le_div_right (Nat.sub_le_sub_right (hlate t ht) anchor)
  simp only [decide_eq_true_eq]
  omega

/-- A call counts in its own window. -/
theorem callsIn_concat (anchor window : Nat) (times : List Nat) (now : Nat) :
    callsIn anchor window ((now - anchor) / window) (times ++ [now]) =
      callsIn anchor window ((now - anchor) / window) times + 1 := by
  simp [callsIn]

/-! ## One call more -/

/-- At a call that is not early, the window of a key is that of the call's time, with the calls
that came before in it. -/
theorem roll_gridWindow (limit : Nat) (hwindow : 0 < window) (hbound : window < UInt64.size)
    (hsorted : times.Pairwise (· ≤ ·)) (hlate : ∀ t ∈ times, t ≤ now) :
    ((gridWindow limit window times).getD ⟨now, 0⟩).roll window now =
      ⟨anchorOf times now + indexOf window times now * window,
        min (callsIn (anchorOf times now) window (indexOf window times now) times) limit⟩ := by
  cases hlast : times.getLast? with
  | none =>
    obtain rfl := List.getLast?_eq_none_iff.mp hlast
    have hnew := roll_of_grid now 0 0 hwindow hbound (by omega : now + 0 * window ≤ now)
    simpa [gridWindow, anchorOf, indexOf, callsIn] using hnew
  | some last =>
    have hmem : last ∈ times := List.mem_of_getLast? hlast
    have hle := le_of_getLast? hsorted hlast
    have hanchor : anchorOf times last = anchorOf times now := by
      cases times with
      | nil => simp at hmem
      | cons t rest => rfl
    have hstart : anchorOf times now ≤ last := hanchor ▸ anchorOf_le hle
    have hbegan : anchorOf times now + (last - anchorOf times now) / window * window ≤ now := by
      have := Nat.div_mul_le_self (last - anchorOf times now) window
      have := hlate last hmem
      omega
    have hsame : (last - anchorOf times now) / window ≤ indexOf window times now :=
      Nat.div_le_div_right (Nat.sub_le_sub_right (hlate last hmem) _)
    have hrolled (count : Nat) : (Window.mk _ count).roll window now =
        ⟨anchorOf times now + indexOf window times now * window,
          if indexOf window times now = (last - anchorOf times now) / window then count else 0⟩ :=
      roll_of_grid _ _ count hwindow hbound hbegan
    rw [gridWindow, hlast, Option.map_some, Option.getD_some, indexOf, hanchor, hrolled]
    -- The kept count goes on in the window of the last call, and no call lies behind that window.
    by_cases hk : indexOf window times now = (last - anchorOf times now) / window
    · rw [if_pos hk, ← hk]
    · rw [if_neg hk, callsIn_eq_zero hle (Nat.lt_of_le_of_ne hsame (Ne.symm hk)), Nat.zero_min]

/-- After a call its window is the one that is kept, with the call counted. -/
theorem gridWindow_concat (limit window : Nat) (times : List Nat) (now : Nat) :
    gridWindow limit window (times ++ [now]) =
      some ⟨anchorOf times now + indexOf window times now * window,
        min (placeOf window times now) limit⟩ := by
  have hanchor : anchorOf (times ++ [now]) now = anchorOf times now := by cases times <;> rfl
  rw [gridWindow, List.getLast?_concat, Option.map_some, indexOf, hanchor, callsIn_concat]
  rfl

/-- A call is judged on the grid of its key and leaves every window on its grid. -/
theorem spend_of_onGrid {limiter : Limiter} {past : List (Attempt String)}
    {attempt : Attempt String} (hwindow : 0 < window) (hbound : window < UInt64.size)
    (h : OnGrid limit window limiter past)
    (htimes : (past ++ [attempt]).Pairwise (·.time ≤ ·.time)) :
    Judged limit window (timesOf attempt.key past) attempt.time
        (limiter.spend attempt.key limit window attempt.time).1 ∧
      OnGrid limit window (limiter.spend attempt.key limit window attempt.time).2
        (past ++ [attempt]) := by
  obtain ⟨key, now⟩ := attempt
  obtain ⟨hpast, -, hlate⟩ := List.pairwise_append.mp htimes
  have hold : ∀ t ∈ timesOf key past, t ≤ now := by
    intro t ht
    obtain ⟨earlier, hearlier, rfl⟩ := List.mem_map.mp ht
    exact hlate earlier (List.mem_filter.mp hearlier).1 ⟨key, now⟩ (List.mem_singleton_self _)
  have hroll := roll_gridWindow limit hwindow hbound (pairwise_timesOf hpast key) hold
  obtain ⟨hpermitted, hremaining, hreset, hafter⟩ := take_of_grid limit
    (callsIn (anchorOf (timesOf key past) now) window (indexOf window (timesOf key past) now)
      (timesOf key past)) hwindow (anchorOf_le hold)
  rw [spend, windowOf, h key, hroll]
  refine ⟨⟨hpermitted, hremaining, hreset⟩, ?_⟩
  intro other
  refine (Table.get?_insert _ _ _ _).trans ?_
  rw [timesOf_append, timesOf_singleton]
  by_cases hkey : key = other
  · subst hkey
    rw [if_pos rfl, if_pos rfl, gridWindow_concat]
    exact congrArg some hafter
  · rw [if_neg hkey, if_neg hkey, List.append_nil]
    exact h other

/-! ## A list of calls -/

/-- The calls of a ledger are those that came. -/
theorem map_fst_ledger (limiter : Limiter) (limit window : Nat) (attempts : List (Attempt String)) :
    (limiter.ledger limit window attempts).map Prod.fst = attempts := by
  induction attempts generalizing limiter with
  | nil => rfl
  | cons attempt rest ih => rw [ledger, List.map_cons, ih]

/-- A ledger goes on from the limiter that the first calls leave. -/
theorem ledger_append (limiter : Limiter) (limit window : Nat)
    (attempts more : List (Attempt String)) :
    limiter.ledger limit window (attempts ++ more) =
      limiter.ledger limit window attempts ++
        (limiter.spendAll limit window attempts).ledger limit window more := by
  induction attempts generalizing limiter with
  | nil => rfl
  | cons attempt rest ih => rw [List.cons_append, ledger, ih]; rfl

/-- Calls that come one after the other leave every window on its grid. -/
theorem onGrid_spendAll (limit : Nat) (hwindow : 0 < window) (hbound : window < UInt64.size)
    {attempts : List (Attempt String)} (htimes : attempts.Pairwise (·.time ≤ ·.time)) :
    OnGrid limit window (spendAll [] limit window attempts) attempts := by
  induction attempts using List.reverseRecOn with
  | nil => exact fun key => rfl
  | append_singleton attempts attempt ih =>
    have hbefore := ih (List.pairwise_append.mp htimes).1
    rw [spendAll, List.foldl_append]
    exact (spend_of_onGrid hwindow hbound hbefore htimes).2

/-- The calls of one key have the verdicts that they would have alone. -/
theorem filter_ledger {limiter limiter' : Limiter} {key : String} (limit window : Nat)
    (attempts : List (Attempt String)) (h : limiter.get? key = limiter'.get? key) :
    (limiter.ledger limit window attempts).filter (·.1.key = key) =
      limiter'.ledger limit window (attempts.filter (·.key = key)) := by
  induction attempts generalizing limiter limiter' with
  | nil => rfl
  | cons attempt rest ih =>
    obtain ⟨other, now⟩ := attempt
    by_cases hkey : other = key
    · subst hkey
      have hsame : limiter.windowOf other now = limiter'.windowOf other now := by
        rw [windowOf, windowOf, h]
      have hafter : (limiter.spend other limit window now).2.get? other =
          (limiter'.spend other limit window now).2.get? other := by
        simp only [spend, hsame]
        exact (Table.get?_insert_self _ _ _).trans (Table.get?_insert_self _ _ _).symm
      rw [ledger, List.filter_cons_of_pos (by simp), List.filter_cons_of_pos (by simp), ledger,
        ih hafter]
      simp only [spend, hsame]
    · rw [ledger, List.filter_cons_of_neg (by simpa using hkey),
        List.filter_cons_of_neg (by simpa using hkey)]
      exact ih ((get?_spend_of_ne limiter limit window now hkey).trans h)

/-- Among the calls of a key in one window of its grid, as many pass as the limit lets. -/
theorem countP_permitted_ledger (hwindow : 0 < window) (hbound : window < UInt64.size)
    {attempts : List (Attempt String)} (htimes : attempts.Pairwise (·.time ≤ ·.time))
    (key : String) (k : Nat) {anchor : Nat}
    (hanchor : ∀ t ∈ (timesOf key attempts).head?, t = anchor) :
    (ledger [] limit window attempts).countP
        (fun entry => entry.1.key = key ∧ (entry.1.time - anchor) / window = k ∧
          entry.2.permitted) =
      min (callsIn anchor window k (timesOf key attempts)) limit := by
  induction attempts using List.reverseRecOn with
  | nil => simp [ledger, timesOf, callsIn]
  | append_singleton attempts attempt ih =>
    have hbefore := (List.pairwise_append.mp htimes).1
    obtain ⟨hjudged, -⟩ :=
      spend_of_onGrid hwindow hbound (onGrid_spendAll limit hwindow hbound hbefore) htimes
    obtain ⟨other, now⟩ := attempt
    rw [timesOf_append, timesOf_singleton] at hanchor ⊢
    rw [ledger_append, List.countP_append, ledger, ledger]
    by_cases hkey : other = key
    · subst hkey
      rw [if_pos rfl] at hanchor ⊢
      have hfirst : anchorOf (timesOf other attempts) now = anchor := by
        apply hanchor
        cases timesOf other attempts <;> rfl
      have hprefix : ∀ t ∈ (timesOf other attempts).head?, t = anchor := by
        intro t ht
        apply hanchor
        rw [List.head?_append, ht]
        rfl
      rw [ih hbefore hprefix]
      by_cases hk : (now - anchor) / window = k
      · have hpermitted := hjudged.permitted
        rw [placeOf, indexOf, hfirst, hk] at hpermitted
        rw [← hk, callsIn_concat, hk]
        -- Below the limit both sides count the call; from then on both stay at the limit.
        by_cases hroom : callsIn anchor window k (timesOf other attempts) + 1 ≤ limit
        · have hpasses := hpermitted.mpr hroom
          rw [List.countP_singleton, if_pos (by simpa [hk] using hpasses)]
          omega
        · have hrefused := mt hpermitted.mp hroom
          rw [List.countP_singleton, if_neg (by simpa [hk] using hrefused)]
          omega
      · simp [callsIn, hk]
    · rw [if_neg hkey, List.append_nil] at hanchor ⊢
      rw [ih hbefore hanchor]
      simp [hkey]

/-- Let calls of any keys come one after the other to a fresh limiter, with a limit and a window
that stay the same. Each call is judged by its place among the calls in its window, on the grid
that the first call of its key laid down, and afterwards this window is the one that is kept. In
every window of the grid of a key as many calls pass as came, up to the limit. The calls of a key
fare as they would without those of other keys. -/
theorem ledger_on_grid (limit : Nat) (hwindow : 0 < window) (hbound : window < UInt64.size)
    {attempts : List (Attempt String)} (htimes : attempts.Pairwise (·.time ≤ ·.time)) :
    (∀ earlier attempt later, attempts = earlier ++ attempt :: later →
      let times := timesOf attempt.key earlier
      let anchor := times.headD attempt.time
      let k := (attempt.time - anchor) / window
      let i := callsIn anchor window k times + 1
      ∃ verdict, (ledger [] limit window attempts)[earlier.length]? = some (attempt, verdict) ∧
        (verdict.permitted = true ↔ i ≤ limit) ∧
        verdict.remaining = (if verdict.permitted then limit - i else 0) ∧
        attempt.time + verdict.resetAfter = anchor + (k + 1) * window ∧
        ∃ kept, (spendAll [] limit window (earlier ++ [attempt])).get? attempt.key = some kept ∧
          kept.startedAt = anchor + k * window) ∧
      (∀ key k, let anchor := (timesOf key attempts).headD 0
        (ledger [] limit window attempts).countP
            (fun entry => entry.1.key = key ∧ (entry.1.time - anchor) / window = k ∧
              entry.2.permitted) =
          min (callsIn anchor window k (timesOf key attempts)) limit) ∧
      ∀ key, (ledger [] limit window attempts).filter (·.1.key = key) =
        ledger [] limit window (attempts.filter (·.key = key)) := by
  refine ⟨?_, ?_, fun key => filter_ledger limit window attempts rfl⟩
  · rintro earlier attempt later rfl times anchor k i
    have hup : (earlier ++ [attempt]).Pairwise (·.time ≤ ·.time) := by
      refine htimes.sublist ?_
      exact List.Sublist.append_left (List.singleton_sublist.mpr List.mem_cons_self) earlier
    have hbefore := onGrid_spendAll limit hwindow hbound (List.pairwise_append.mp hup).1
    obtain ⟨hjudged, -⟩ := spend_of_onGrid hwindow hbound hbefore hup
    have hlength : (ledger [] limit window earlier).length = earlier.length := by
      rw [← List.length_map (f := Prod.fst), map_fst_ledger]
    refine ⟨_, ?_, hjudged.permitted, hjudged.remaining, hjudged.reset, ?_⟩
    · rw [ledger_append, List.getElem?_append_right (Nat.le_of_eq hlength), hlength, Nat.sub_self]
      rfl
    · have hkept := onGrid_spendAll limit hwindow hbound hup attempt.key
      rw [timesOf_append, timesOf_singleton, if_pos rfl, gridWindow_concat] at hkept
      exact ⟨_, hkept, rfl⟩
  · intro key k anchor
    apply countP_permitted_ledger hwindow hbound htimes
    intro t ht
    simp only [anchor, List.headD_eq_head?_getD, Option.mem_def.mp ht, Option.getD_some]

/-- Two calls pass in ten nanoseconds. The third call of a key is refused although another key
came between, and after three idle windows the fourth finds one that began on the grid. -/
theorem ledger_on_grid_after_idle_gap :
    let attempts : List (Attempt String) :=
      [⟨"a", 5⟩, ⟨"b", 6⟩, ⟨"a", 7⟩, ⟨"a", 9⟩, ⟨"a", 38⟩]
    0 < 10 ∧ 10 < UInt64.size ∧ attempts.Pairwise (·.time ≤ ·.time) ∧
      (∃ refused, (ledger [] 2 10 attempts)[3]? = some (⟨"a", 9⟩, refused) ∧
        refused.permitted = false ∧ 9 + refused.resetAfter = 15) ∧
      ∃ passed, (ledger [] 2 10 attempts)[4]? = some (⟨"a", 38⟩, passed) ∧
        passed.permitted = true ∧ passed.remaining = 1 ∧ 38 + passed.resetAfter = 45 := by
  intro attempts
  have hwindow : 0 < 10 := by decide
  have hbound : 10 < UInt64.size := by decide
  have htimes : attempts.Pairwise (·.time ≤ ·.time) := by decide
  obtain ⟨hgrid, -, -⟩ := ledger_on_grid 2 hwindow hbound htimes
  refine ⟨hwindow, hbound, htimes, ?_, ?_⟩
  · obtain ⟨refused, hfound, hpermitted, -, hreset, -⟩ :=
      hgrid [⟨"a", 5⟩, ⟨"b", 6⟩, ⟨"a", 7⟩] ⟨"a", 9⟩ [⟨"a", 38⟩] rfl
    have hover : ¬ refused.permitted = true := mt hpermitted.mp (by decide)
    exact ⟨refused, hfound, by simpa using hover, hreset⟩
  · obtain ⟨passed, hfound, hpermitted, hremaining, hreset, -⟩ :=
      hgrid [⟨"a", 5⟩, ⟨"b", 6⟩, ⟨"a", 7⟩, ⟨"a", 9⟩] ⟨"a", 38⟩ [] rfl
    have hpasses : passed.permitted = true := hpermitted.mpr (by decide)
    rw [if_pos hpasses] at hremaining
    exact ⟨passed, hfound, hpasses, hremaining, hreset⟩

end ToolGateway.Limiter
