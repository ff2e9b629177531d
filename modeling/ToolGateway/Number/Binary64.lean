/-!
# Binary floating point with 53 bits

A `Binary64` is a finite double: a sign and a magnitude `mantissa * 2 ^ exponent`. The two numbers
are in lowest form: the mantissa has 53 bits, or it has fewer and the exponent is the least one.

Rounding is exact: `Binary64.nearest?` rounds a quotient of two naturals to the nearest magnitude,
ties to the even mantissa, with integer arithmetic alone, and answers nothing where the quotient
is too large. Products and quotients of doubles are rounded by it.
-/

namespace ToolGateway

/-- A finite double. -/
structure Binary64 where
  /-- Whether the sign is minus; zero has either sign. -/
  negative : Bool
  /-- The magnitude in units of the last place. -/
  mantissa : Nat
  /-- The power of two of the last place. -/
  exponent : Int
  deriving DecidableEq, Repr

namespace Binary64

/-- The least power of two of a last place. -/
def minExponent : Int := -1074

/-- The greatest power of two of a last place. -/
def maxExponent : Int := 971

/-- Mantissas lie below this number. -/
def mantissaBound : Nat := Nat.pow 2 53

/-- The zero of a sign. -/
def zero (negative : Bool) : Binary64 := ⟨negative, 0, minExponent⟩

/-- The quotient `num / den` in units of `2 ^ exponent`, as a quotient of naturals. -/
def inUnits (num den : Nat) (exponent : Int) : Nat × Nat :=
  if 0 ≤ exponent then (num, den * Nat.pow 2 exponent.toNat)
  else (num * Nat.pow 2 (-exponent).toNat, den)

/-- The natural nearest to a quotient, an even one where two are equally near. -/
def roundToEven (num den : Nat) : Nat :=
  let whole := num / den
  let rest := 2 * (num % den)
  if rest < den ∨ (rest = den ∧ whole % 2 = 0) then whole else whole + 1

/-- A last place for a quotient: with it, the whole part of a quotient that is not too small has
53 bits. -/
def lastPlace (num den : Nat) : Int :=
  let guess := max minExponent ((num.log2 : Int) - (den.log2 : Int) - 53)
  let (n, d) := inUnits num den guess
  if n / d < mantissaBound then guess else guess + 1

/-- The magnitude nearest to a quotient, or nothing where that is beyond all doubles. -/
def nearest? (negative : Bool) (num den : Nat) : Option Binary64 :=
  if num = 0 then some (zero negative)
  else
    let exponent := lastPlace num den
    let (n, d) := inUnits num den exponent
    let m := roundToEven n d
    if m = mantissaBound then
      if exponent < maxExponent then some ⟨negative, m / 2, exponent + 1⟩ else none
    else if exponent ≤ maxExponent then some ⟨negative, m, exponent⟩
    else none

/-- The magnitude of a double as a quotient of naturals. -/
def toQuotient (x : Binary64) : Nat × Nat :=
  if 0 ≤ x.exponent then (x.mantissa * Nat.pow 2 x.exponent.toNat, 1)
  else (x.mantissa, Nat.pow 2 (-x.exponent).toNat)

/-- The double nearest to a natural. -/
def ofNat? (n : Nat) : Option Binary64 := nearest? false n 1

/-- The rounded product of two doubles. -/
def mul? (x y : Binary64) : Option Binary64 :=
  nearest? (x.negative != y.negative) (x.toQuotient.1 * y.toQuotient.1)
    (x.toQuotient.2 * y.toQuotient.2)

/-- The rounded quotient of two doubles, the second of which is not zero. -/
def div? (x y : Binary64) : Option Binary64 :=
  nearest? (x.negative != y.negative) (x.toQuotient.1 * y.toQuotient.2)
    (x.toQuotient.2 * y.toQuotient.1)

/-- The double nearest to a power of ten. -/
def tenPow? (n : Nat) : Option Binary64 := ofNat? (Nat.pow 10 n)

/-- Turns the sign. -/
def neg (x : Binary64) : Binary64 := { x with negative := !x.negative }

/-- The greatest power of ten that is a double. -/
def maxTenPow : Nat := 308

/-- Divides by a power of ten: first `steps` times by the greatest power of ten that is a double,
then once by `10 ^ rest`. -/
def divideByTen? (x : Binary64) (rest : Nat) : (steps : Nat) → Option Binary64
  | 0 => (tenPow? rest).bind x.div?
  | steps + 1 =>
    if x.mantissa = 0 then some x
    else
      match (tenPow? maxTenPow).bind x.div? with
      | none => none
      | some y => divideByTen? y rest steps

/-- Multiplies by a power of ten the plain way: one rounded product or quotient with the double
nearest to that power, after as few divisions by the greatest one in reach as a lesser power
needs. The answer is not always the double nearest to the mathematical product. -/
def scaleByTen? (x : Binary64) (exponent : Int) : Option Binary64 :=
  if 0 ≤ exponent then
    if x.mantissa = 0 then some x
    else if exponent.toNat ≤ maxTenPow then (tenPow? exponent.toNat).bind x.mul?
    else none
  else
    let steps := (exponent.natAbs - 1) / maxTenPow
    divideByTen? x (exponent.natAbs - steps * maxTenPow) steps

end Binary64

end ToolGateway
