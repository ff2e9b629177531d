/-!
# Ranges of codes

Sets of characters are given by ranges of their codes, both ends included.
-/

namespace ToolGateway.Unicode

/-- Ranges of codes. -/
abbrev Ranges := List (Nat × Nat)

/-- Whether a code lies in one of the ranges. -/
def Ranges.has (ranges : Ranges) (n : Nat) : Bool := ranges.any fun r => r.1 ≤ n && n ≤ r.2

/-- Whether a code is the first of one of the ranges, or an even number of steps behind it. Capitals
that alternate with their small letters are given so. -/
def Ranges.hasEverySecond (ranges : Ranges) (n : Nat) : Bool :=
  ranges.any fun r => r.1 ≤ n && n ≤ r.2 && (n - r.1) % 2 == 0

end ToolGateway.Unicode
