import ToolGateway.Number.Binary64
import ToolGateway.Text.Hex
import ToolGateway.Toml.Basic

/-!
# Words as TOML values

What a word stands for where a value is expected: a truth value, a whole number, a number with a
fraction, or a point in time. Underscores may stand between digits. Numbers may be of any size here;
which of them can be read is another question.
-/

namespace ToolGateway.Toml

/-! ## Digits -/

/-- Takes the underscores out of digits: each stands between two of them. The digits read so far
come first (the last one first). -/
def ungroup (isDigit : Char → Bool) (done : List Char) : List Char → Option (List Char)
  | [] => none
  | [c] => if isDigit c then some (c :: done).reverse else none
  | c :: '_' :: rest => if isDigit c then ungroup isDigit (c :: done) rest else none
  | c :: rest => if isDigit c then ungroup isDigit (c :: done) rest else none

/-- The digits of a number in a base. -/
def digits? (base : Nat) (cs : List Char) : Option (List Nat) := do
  let cs ← ungroup (fun c => (Text.hexValue? c).any (· < base)) [] cs
  cs.mapM Text.hexValue?

/-- Decimal digits without a zero in front of others. -/
def wholeDigits? (cs : List Char) : Option (List Nat) :=
  (digits? 10 cs).filter fun ds => ds.head? ≠ some 0 ∨ ds.length = 1

/-- The number that digits stand for. -/
def ofDigits (base : Nat) (ds : List Nat) : Nat := ds.foldl (fun n d => n * base + d) 0

/-- A sign, if there is one, and what follows it. -/
def takeSign : List Char → Option Bool × List Char
  | '-' :: rest => (some true, rest)
  | '+' :: rest => (some false, rest)
  | cs => (none, cs)

/-! ## Whole numbers -/

/-- The value of digits behind a sign. -/
def whole (negative : Bool) (base : Nat) (ds : List Nat) : Toml :=
  let n : Int := ofDigits base ds
  .integer (if negative then -n else n)

/-- A whole number: decimal with or without a sign, or behind the mark of another base. -/
def integer? (cs : List Char) : Option Toml :=
  match cs with
  | '0' :: 'x' :: rest => (digits? 16 rest).map (whole false 16)
  | '0' :: 'o' :: rest => (digits? 8 rest).map (whole false 8)
  | '0' :: 'b' :: rest => (digits? 2 rest).map (whole false 2)
  | cs =>
    let (sign, rest) := takeSign cs
    (wholeDigits? rest).map (whole (sign = some true) 10)

/-! ## Numbers with a fraction -/

/-- Whether `digits · 10 ^ exponent` rounds to a finite double. The place of the first digit
settles all but the numbers near the greatest double. -/
def isFinite (ds : List Nat) (exponent : Int) : Bool :=
  let ds := ds.dropWhile (· = 0)
  let magnitude : Int := ds.length + exponent
  if ds = [] ∨ magnitude < 309 then true
  else if 309 < magnitude then false
  else
    let n := ofDigits 10 ds
    (Binary64.nearest? false (n * Nat.pow 10 exponent.toNat)
      (Nat.pow 10 (-exponent).toNat)).isSome

/-- An exponent behind its letter. -/
def exponent? (cs : List Char) : Option Int :=
  let (sign, rest) := takeSign cs
  (digits? 10 rest).map fun ds =>
    let n : Int := ofDigits 10 ds
    if sign = some true then -n else n

/-- Whether a character announces an exponent. -/
def isExponentMark (c : Char) : Bool := c = 'e' || c = 'E'

/-- Digits and exponent of a number with a fraction or an exponent, without its sign. -/
def decimal? (cs : List Char) : Option (List Nat × Int) := do
  let front := cs.takeWhile (!isExponentMark ·)
  let back := cs.dropWhile (!isExponentMark ·)
  let exponent ← if back = [] then some 0 else exponent? (back.drop 1)
  let whole ← wholeDigits? (front.takeWhile (· ≠ '.'))
  match front.dropWhile (· ≠ '.') with
  | [] => if back = [] then none else return (whole, exponent)
  | _ :: rest =>
    let fraction ← digits? 10 rest
    return (whole ++ fraction, exponent - fraction.length)

/-- A number with a fraction or an exponent, an infinity or no number. -/
def float? (cs : List Char) : Option Toml :=
  let (_, rest) := takeSign cs
  if rest = "inf".toList ∨ rest = "nan".toList then some (.float (String.ofList cs) true)
  else (decimal? rest).map fun (ds, exponent) => .float (String.ofList cs) (isFinite ds exponent)

/-! ## Points in time -/

/-- The number of two decimal digits. -/
def pair? (a b : Char) : Option Nat :=
  if a.isDigit ∧ b.isDigit then some ((a.toNat - 0x30) * 10 + (b.toNat - 0x30)) else none

/-- The days of a month. -/
def daysIn (year month : Nat) : Nat :=
  if month = 2 then
    if year % 4 = 0 ∧ (year % 100 ≠ 0 ∨ year % 400 = 0) then 29 else 28
  else if [4, 6, 9, 11].contains month then 30
  else 31

/-- Reads a date. -/
def takeDate? : List Char → Option (List Char)
  | y₁ :: y₂ :: y₃ :: y₄ :: '-' :: m₁ :: m₂ :: '-' :: d₁ :: d₂ :: rest => do
    let year := (← pair? y₁ y₂) * 100 + (← pair? y₃ y₄)
    let month ← pair? m₁ m₂
    let day ← pair? d₁ d₂
    if 1 ≤ month ∧ month ≤ 12 ∧ 1 ≤ day ∧ day ≤ daysIn year month then some rest else none
  | _ => none

/-- Reads the fraction of a second, if there is one. -/
def takeFraction? : List Char → Option (List Char)
  | '.' :: c :: rest => if c.isDigit then some (rest.dropWhile Char.isDigit) else none
  | '.' :: [] => none
  | cs => some cs

/-- Reads the seconds of a time of day, if they are given. A minute may have a leap second. -/
def takeSeconds? : List Char → Option (List Char)
  | ':' :: s₁ :: s₂ :: rest => do
    let second ← pair? s₁ s₂
    if second ≤ 60 then takeFraction? rest else none
  | cs => some cs

/-- Reads a time of day. -/
def takeTime? : List Char → Option (List Char)
  | h₁ :: h₂ :: ':' :: m₁ :: m₂ :: rest => do
    let hour ← pair? h₁ h₂
    let minute ← pair? m₁ m₂
    if hour < 24 ∧ minute < 60 then takeSeconds? rest else none
  | _ => none

/-- Whether characters are the distance to universal time. -/
def isOffset : List Char → Bool
  | [c] => c = 'Z' || c = 'z'
  | [sign, h₁, h₂, ':', m₁, m₂] =>
    (sign = '+' || sign = '-') && (pair? h₁ h₂).any (· < 24) && (pair? m₁ m₂).any (· < 60)
  | _ => false

/-- Whether characters are a date. -/
def isDate (cs : List Char) : Bool := takeDate? cs = some []

/-- Whether characters are a date, a time of day or both. -/
def isMoment (cs : List Char) : Bool :=
  match takeDate? cs with
  | none => takeTime? cs = some []
  | some [] => true
  | some (c :: rest) =>
    (c = 'T' || c = 't' || c = ' ') &&
      match takeTime? rest with
      | none => false
      | some offset => offset.isEmpty || isOffset offset

/-- The value of a word. -/
def ofWord? (cs : List Char) : Option Toml :=
  if cs = "true".toList then some (.boolean true)
  else if cs = "false".toList then some (.boolean false)
  else if isMoment cs then some (.moment (String.ofList cs))
  else
    match integer? cs with
    | some n => some n
    | none => float? cs

end ToolGateway.Toml
