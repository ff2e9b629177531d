/-!
# Lengths of time

Times are nanoseconds since the clock began, and lengths of time are nanoseconds too. Elsewhere
both are plain naturals; this module names the units that are written outside. Lengths of time are
told in whole seconds, rounded up: `wholeSeconds` is the least positive number of seconds that
covers one.
-/

namespace ToolGateway.Time

/-- One millisecond. -/
def millisecond : Nat := 1000 * 1000

/-- One second. -/
def second : Nat := 1000 * millisecond

/-- Whole seconds that cover a length of time, at least one. -/
def wholeSeconds (nanoseconds : Nat) : Nat := max 1 ((nanoseconds + (second - 1)) / second)

/-- They cover it. -/
theorem le_wholeSeconds_mul (n : Nat) : n ≤ wholeSeconds n * second := by
  simp only [wholeSeconds, second, millisecond]
  omega

/-- One second less does not cover it. -/
theorem wholeSeconds_sub_one_mul_lt {n : Nat} (h : 0 < n) :
    (wholeSeconds n - 1) * second < n := by
  simp only [wholeSeconds, second, millisecond]
  omega

end ToolGateway.Time
