import ToolGateway.Table
import ToolGateway.Time

/-!
# Fixed-window call limits

Each key has a window that began with its first call. Within a window the first `limit` calls
pass, and a call that comes when the window is over starts the window that contains it: windows
stay on the grid laid down by the first call, however long the key was idle. A refused call is
not counted and a counted call is never given back.

Times are nanoseconds since the clock began. Limit and window belong to the call.
-/

namespace ToolGateway

/-- What became of one call. -/
structure Limiter.Verdict where
  /-- Whether the call passes. -/
  permitted : Bool
  /-- Calls that may still pass in this window. -/
  remaining : Nat
  /-- Time until the window is over. -/
  resetAfter : Nat
  deriving DecidableEq, Repr

/-- The current window of a key. -/
structure Limiter.Window where
  /-- When the window began. -/
  startedAt : Nat
  /-- Calls that passed in it. -/
  count : Nat
  deriving DecidableEq, Repr

/-- The windows of all keys seen so far. -/
abbrev Limiter := Table Limiter.Window

namespace Limiter

/-- Offsets into a window from this many nanoseconds on are not resolved. -/
def offsetBound : Nat := UInt64.size

/-- The start of the window that contains `now`, when the last known one began `elapsed` ago. A
window of no length starts at once, and so does one with an offset that is not resolved. -/
def windowStart (now elapsed window : Nat) : Nat :=
  if window = 0 then now
  else if elapsed % window < offsetBound then now - elapsed % window
  else now

/-- The window of a key at the time `now`: the one it has, or the next one on its grid. -/
def Window.roll (w : Window) (window now : Nat) : Window :=
  if window ≤ now - w.startedAt then ⟨windowStart now (now - w.startedAt) window, 0⟩ else w

/-- One call in a window that is current. -/
def Window.take (w : Window) (limit window now : Nat) : Verdict × Window :=
  let resetAfter := window - (now - w.startedAt)
  if limit ≤ w.count then (⟨false, 0, resetAfter⟩, w)
  else (⟨true, limit - (w.count + 1), resetAfter⟩, { w with count := w.count + 1 })

/-- The window of a key, which begins now when the key is new. -/
def windowOf (limiter : Limiter) (key : String) (now : Nat) : Window :=
  (limiter.get? key).getD ⟨now, 0⟩

/-- One call of a key. -/
def spend (limiter : Limiter) (key : String) (limit window now : Nat) : Verdict × Limiter :=
  let (verdict, after) := ((limiter.windowOf key now).roll window now).take limit window now
  (verdict, limiter.insert key after)

/-- How many keys have been seen. -/
def trackedKeys (limiter : Limiter) : Nat := limiter.length

/-- The key of the calls that one caller makes to one tool of one server. -/
def callKey (label tool caller : String) : String :=
  "gateway:" ++ label ++ ":" ++ tool ++ ":" ++ caller

/-- The calls that pass in one window when nothing else is configured. -/
def defaultLimit : Nat := 60

/-- The length of a window when nothing else is configured: one minute. -/
def defaultWindow : Nat := 60 * Time.second

/-- A call leaves the windows of all other keys alone. -/
theorem get?_spend_of_ne (limiter : Limiter) {key other : String} (limit window now : Nat)
    (h : key ≠ other) : (limiter.spend key limit window now).2.get? other = limiter.get? other :=
  Table.get?_insert_of_ne _ _ h

end Limiter

end ToolGateway
