import ToolGateway.Number.Binary64

/-!
# The fewest digits that read back

The decimal digits of a double are the shortest that lie in the interval of reals rounding to it.
For one, two, … digits in turn, the two neighbours of the value on that decimal grid are tested;
the first grid with a hit gives the digits, and of two hits the nearer one is taken, an even last
digit where both are equally near. Seventeen digits always suffice.

All comparisons are between naturals: a `Span` holds the value and the ends of its interval over
one common denominator.
-/

namespace ToolGateway.Shortest

/-- A value with the ends of the interval that rounds to it, over a common denominator. -/
structure Span where
  low : Nat
  value : Nat
  high : Nat
  den : Nat
  /-- Whether the ends belong to the interval. -/
  closed : Bool
  deriving DecidableEq, Repr

/-- The interval that rounds to a double. Below a power of two the neighbour is only half as far
away as above it, unless the last place is the least one. -/
def Span.of (x : Binary64) : Span :=
  let narrow := decide (2 * x.mantissa = Binary64.mantissaBound ∧ Binary64.minExponent < x.exponent)
  let value := 4 * x.mantissa
  let low := value - (if narrow then 1 else 2)
  let high := value + 2
  let (scale, den) :=
    if 0 ≤ x.exponent then (Nat.pow 2 x.exponent.toNat, 4)
    else (1, 4 * Nat.pow 2 (-x.exponent).toNat)
  ⟨low * scale, value * scale, high * scale, den, x.mantissa % 2 == 0⟩

/-- Digits, read as a natural, times a power of ten. -/
structure Decimal where
  digits : Nat
  exponent : Int
  deriving DecidableEq, Repr

/-- The quotient `num / den` in units of `10 ^ exponent`, as a quotient of naturals. -/
def inTens (num den : Nat) (exponent : Int) : Nat × Nat :=
  if 0 ≤ exponent then (num, den * Nat.pow 10 exponent.toNat)
  else (num * Nat.pow 10 (-exponent).toNat, den)

/-- Whether a point of a decimal grid lies in the interval of a span. -/
def Span.holds (s : Span) (digits : Nat) (exponent : Int) : Bool :=
  let (low, d) := inTens s.low s.den exponent
  let (high, _) := inTens s.high s.den exponent
  let point := digits * d
  if s.closed then low ≤ point && point ≤ high else low < point && point < high

/-- Whether the value is nearer to the lower of the two neighbours `digits` and `digits + 1` of a
grid, or equally near to both and `digits` is even. -/
def Span.prefersLower (s : Span) (digits : Nat) (exponent : Int) : Bool :=
  let (value, d) := inTens s.value s.den exponent
  let below := value - digits * d
  let above := (digits + 1) * d - value
  below < above || (below == above && digits % 2 == 0)

/-- The hit on one grid, if it has one. -/
def Span.onGrid? (s : Span) (exponent : Int) : Option Decimal :=
  let (value, d) := inTens s.value s.den exponent
  let digits := value / d
  match s.holds digits exponent, s.holds (digits + 1) exponent with
  | true, true => some ⟨if s.prefersLower digits exponent then digits else digits + 1, exponent⟩
  | true, false => some ⟨digits, exponent⟩
  | false, true => some ⟨digits + 1, exponent⟩
  | false, false => none

/-- The number of decimal digits of the whole part of a value, for a value below one the negated
number of zeros after the point: the least `k` with the value below `10 ^ k`. -/
def Span.magnitude (s : Span) : Int :=
  let below (k : Int) : Bool :=
    let (value, d) := inTens s.value s.den k
    value < d
  let guess : Int := (((s.value.log2 : Int) - (s.den.log2 : Int) - 1) * 30103) / 100000
  if below guess then guess
  else if below (guess + 1) then guess + 1
  else guess + 2

/-- Tries grids of more and more digits. -/
def Span.search (s : Span) (magnitude : Int) : List Nat → Decimal
  | [] => ⟨0, 0⟩
  | n :: more =>
    match s.onGrid? (magnitude - n) with
    | some hit => hit
    | none => s.search magnitude more

/-- Drops zeros at the end, each of which raises the exponent by one. -/
def Decimal.dropZeros (d : Decimal) : Nat → Decimal
  | 0 => d
  | more + 1 =>
    if d.digits % 10 = 0 then dropZeros ⟨d.digits / 10, d.exponent + 1⟩ more else d

/-- The fewest digits that read back as the magnitude of a double other than zero. -/
def ofBinary64 (x : Binary64) : Decimal :=
  let s := Span.of x
  (s.search s.magnitude ((List.range 17).map (· + 1))).dropZeros 17

end ToolGateway.Shortest
