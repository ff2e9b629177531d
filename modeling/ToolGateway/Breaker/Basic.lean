import ToolGateway.Table

/-!
# Circuit breakers

One breaker guards each tool server. It is closed while calls flow and counts the failures since
the last success. Reaching the threshold opens it, and it then refuses every call until it has
been open for the blackout; after that it lets one trial call through at a time. A success closes
it, a failure starts the blackout anew, and a trial that nobody answers keeps the others out for
one blackout at most.

Times are nanoseconds since the clock began. The threshold and the blackout belong to the call, so
one breaker may be used under different settings from call to call. Only an open breaker has an
opening time and a trial, which is why both belong to that constructor alone.
-/

namespace ToolGateway

/-- When a breaker opens and for how long it stays open. -/
structure Breaker.Settings where
  /-- Failures in a row that open the breaker. -/
  threshold : Nat
  /-- How long an open breaker refuses calls, in nanoseconds. -/
  blackout : Nat
  deriving DecidableEq, Repr

/-- The state of the breaker of one tool server. -/
inductive Breaker where
  /-- Calls flow; `failures` were seen since the last success. -/
  | closed (failures : Nat)
  /-- Calls are refused since the time `since`, but for the trial that began at `trial`. -/
  | opened (failures since : Nat) (trial : Option Nat)
  deriving DecidableEq, Repr

/-- How a call passed a breaker. -/
inductive Admission where
  /-- The breaker was closed. -/
  | ordinary
  /-- The blackout was over, and this call is the trial. -/
  | trial
  deriving DecidableEq, Repr

namespace Breaker

/-- Failures are counted up to this number and no further. -/
def maxFailures : Nat := UInt32.size - 1

/-- A breaker that has seen no call. -/
def fresh : Breaker := .closed 0

/-- Failures since the last success. -/
def failures : Breaker → Nat
  | .closed n => n
  | .opened n _ _ => n

/-- When an open breaker last began its blackout. -/
def openedAt : Breaker → Option Nat
  | .closed _ => none
  | .opened _ since _ => some since

/-- When the outstanding trial began. -/
def trialAt : Breaker → Option Nat
  | .closed _ => none
  | .opened _ _ trial => trial

/-- Whether the breaker is open. -/
def isOpen (b : Breaker) : Bool := b.openedAt.isSome

/-- Whether a trial that began at `trial` still keeps other trials out. -/
def trialBusy (blackout now : Nat) : Option Nat → Bool
  | none => false
  | some began => now - began < blackout

/-- Lets a call pass or refuses it. -/
def attempt (b : Breaker) (blackout now : Nat) : Option Admission × Breaker :=
  match b with
  | .closed n => (some .ordinary, .closed n)
  | .opened n since trial =>
    if now - since < blackout ∨ trialBusy blackout now trial then
      (none, .opened n since trial)
    else
      (some .trial, .opened n since (some now))

/-- Ends the trial without saying how it went. -/
def release : Breaker → Breaker
  | .closed n => .closed n
  | .opened n since _ => .opened n since none

/-- Takes note of a success. -/
def succeed (_ : Breaker) : Breaker := fresh

/-- One failure more, up to the largest number kept. -/
def countUp (n : Nat) : Nat := min (n + 1) maxFailures

/-- Takes note of a failure. -/
def fail (b : Breaker) (threshold now : Nat) : Breaker :=
  match b with
  | .opened n _ _ => .opened (countUp n) now none
  | .closed n =>
    if threshold ≤ countUp n then .opened (countUp n) now none else .closed (countUp n)

/-- A failure raises the count by one until it is full. -/
@[simp] theorem failures_fail (b : Breaker) (threshold now : Nat) :
    (b.fail threshold now).failures = countUp b.failures := by
  cases b with
  | closed n => simp only [fail]; split <;> rfl
  | opened n since trial => rfl

/-- Ending a trial touches neither the count nor the opening time. -/
@[simp] theorem failures_release (b : Breaker) : b.release.failures = b.failures := by
  cases b <;> rfl

@[simp] theorem openedAt_release (b : Breaker) : b.release.openedAt = b.openedAt := by
  cases b <;> rfl

@[simp] theorem trialAt_release (b : Breaker) : b.release.trialAt = none := by
  cases b <;> rfl

/-- Asking for admission touches neither the count nor the opening time. -/
@[simp] theorem failures_attempt (b : Breaker) (blackout now : Nat) :
    (b.attempt blackout now).2.failures = b.failures := by
  cases b with
  | closed n => rfl
  | opened n since trial => simp only [attempt]; split <;> rfl

@[simp] theorem openedAt_attempt (b : Breaker) (blackout now : Nat) :
    (b.attempt blackout now).2.openedAt = b.openedAt := by
  cases b with
  | closed n => rfl
  | opened n since trial => simp only [attempt]; split <;> rfl

end Breaker

/-- The breakers of all tool servers, by label; a label not listed has a fresh breaker. -/
abbrev Breakers := Table Breaker

namespace Breakers

/-- The breaker of a label. -/
def of (bs : Breakers) (label : String) : Breaker := (bs.get? label).getD .fresh

/-- Asks the breaker of a label to let a call pass. -/
def attempt (bs : Breakers) (label : String) (settings : Breaker.Settings) (now : Nat) :
    Option Admission × Breakers :=
  let (admission, after) := (bs.of label).attempt settings.blackout now
  (admission, bs.insert label after)

/-- Ends the trial of a label without saying how it went. -/
def release (bs : Breakers) (label : String) : Breakers := bs.insert label (bs.of label).release

/-- Takes note of a success of a label. -/
def succeed (bs : Breakers) (label : String) : Breakers := bs.insert label (bs.of label).succeed

/-- Takes note of a failure of a label. -/
def fail (bs : Breakers) (label : String) (settings : Breaker.Settings) (now : Nat) : Breakers :=
  bs.insert label ((bs.of label).fail settings.threshold now)

/-- The breaker of a label after one was put in place. -/
theorem of_insert (bs : Breakers) (label other : String) (b : Breaker) :
    of (Table.insert bs label b) other = if label = other then b else bs.of other := by
  simp only [of, Table.get?_insert]
  split <;> rfl

end Breakers

end ToolGateway
