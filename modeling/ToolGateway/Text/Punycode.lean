/-!
# Punycode

A text written with ASCII letters, digits and hyphens only. Its ASCII characters come first, with a
hyphen behind them, and then a number for each other character, in the order of their codes. The
number says how far to go from the place and the code of the character before: passing the end of
the text adds one to the code. Numbers are written with 36 digits, the lowest one first, and a
digit below a threshold is the last one of its number.
-/

namespace ToolGateway.Text.Punycode

/-! ## Numbers -/

/-- The value of a digit: letters first, then figures. -/
def digit? (c : Char) : Option Nat :=
  if c.isLower then some (c.toNat - 0x61)
  else if c.isUpper then some (c.toNat - 0x41)
  else if c.isDigit then some (c.toNat - 0x30 + 26)
  else none

/-- The digit with a value below 36. -/
def digitChar (d : Nat) : Char := Char.ofNat (if d < 26 then 0x61 + d else 0x30 + (d - 26))

/-- The threshold of a digit's place, which is a multiple of 36. -/
def threshold (bias place : Nat) : Nat :=
  if place ≤ bias then 1 else if bias + 26 ≤ place then 26 else place - bias

theorem threshold_pos (bias place : Nat) : 0 < threshold bias place := by
  unfold threshold
  split
  · exact Nat.one_pos
  · split <;> omega

/-- Writes a number from the place of its first digit on. -/
def writeNumber (bias place n : Nat) : List Char :=
  let least := threshold bias place
  if n < least then [digitChar n]
  else
    digitChar (least + (n - least) % (36 - least)) ::
      writeNumber bias (place + 36) ((n - least) / (36 - least))
termination_by n
decreasing_by
  have := threshold_pos bias place
  exact Nat.lt_of_le_of_lt (Nat.div_le_self _ _) (by omega)

/-- Divides a distance until it is small, and counts the places that this saves. -/
def scaleDown (distance places : Nat) : Nat × Nat :=
  if h : 455 < distance then scaleDown (distance / 35) (places + 36) else (distance, places)
termination_by distance
decreasing_by exact Nat.div_lt_self (by omega) (by omega)

/-- The bias behind a number: about how many places the next one will take. The first number is
large, as it leads to the script of the text. -/
def adapt (distance count : Nat) (isFirst : Bool) : Nat :=
  let start := if isFirst then distance / 700 else distance / 2
  let (rest, places) := scaleDown (start + start / count) 0
  places + 36 * rest / (rest + 38)

/-! ## Reading -/

/-- A text that is being read. -/
structure Reading where
  /-- The codes of the characters so far. -/
  codes : List Nat
  /-- The code of the last character that was put in. -/
  code : Nat
  bias : Nat
  /-- The place behind that character. -/
  start : Nat
  /-- That place, moved on by the digits of the number so far. -/
  position : Nat
  /-- What the next digit counts. -/
  weight : Nat
  /-- The place of the next digit in its number; 36 is the first. -/
  place : Nat
  deriving DecidableEq, Repr

/-- A reading of which only the ASCII characters are known. -/
def Reading.begin (codes : List Nat) : Reading := ⟨codes, 0x80, 72, 0, 0, 1, 36⟩

/-- Whether a code is that of a character. -/
def isCharacter (n : Nat) : Bool := n < 0xD800 || (0xDFFF < n && n < 0x110000)

/-- Puts the next character in. -/
def Reading.insert? (r : Reading) : Option Reading :=
  let room := r.codes.length + 1
  let code := r.code + r.position / room
  let spot := r.position % room
  if isCharacter code then
    some ⟨r.codes.insertIdx spot code, code, adapt (r.position - r.start) room (r.start == 0),
      spot + 1, spot + 1, 1, 36⟩
  else none

/-- Reads a digit. Numbers of more than 32 bits are refused. -/
def Reading.step? (r : Reading) (c : Char) : Option Reading := do
  let digit ← digit? c
  let least := threshold r.bias r.place
  let position := r.position + digit * r.weight
  if UInt32.size ≤ position then none
  else if digit < least then ({ r with position }).insert?
  else
    let weight := r.weight * (36 - least)
    if UInt32.size ≤ weight then none
    else some { r with position, weight, place := r.place + 36 }

/-- Cuts a text at its last hyphen. One at the front is a digit, which is none. -/
def cut (cs : List Char) : List Char × List Char :=
  let numbers := (cs.reverse.takeWhile (· ≠ '-')).reverse
  match cs.take (cs.length - numbers.length) with
  | [] => ([], cs)
  | ['-'] => ([], cs)
  | front => (front.dropLast, numbers)

/-- Reads a text and gives its codes. The last number must be complete. -/
def decode? (cs : List Char) : Option (List Nat) := do
  let (ascii, numbers) := cut cs
  let r ← numbers.foldlM Reading.step? (.begin (ascii.map Char.toNat))
  if r.place = 36 then some r.codes else none

/-! ## Writing -/

/-- The greatest code beyond ASCII and the last place where it stands. -/
def lastGreatest? : List Nat → Option (Nat × Nat)
  | [] => none
  | n :: rest =>
    match lastGreatest? rest with
    | some (code, spot) => if n ≤ code then some (code, spot + 1) else some (n, 0)
    | none => if 0x80 ≤ n then some (n, 0) else none

/-- How far a reading has to go to put a character in at a place. -/
def Reading.distance (r : Reading) (code spot : Nat) : Nat :=
  (code - r.code) * (r.codes.length + 1) + spot - r.start

/-- The reading behind that character. -/
def Reading.put (r : Reading) (code spot : Nat) : Reading :=
  ⟨r.codes.insertIdx spot code, code,
    adapt (r.distance code spot) (r.codes.length + 1) (r.start == 0), spot + 1, spot + 1, 1, 36⟩

theorem lt_length_of_lastGreatest? {codes : List Nat} {code spot : Nat}
    (h : lastGreatest? codes = some (code, spot)) : spot < codes.length := by
  induction codes generalizing code spot with
  | nil => cases h
  | cons n rest ih => grind [lastGreatest?]

/-- The numbers of a text, and the reading behind them. The last number is that of the greatest
code, and the others are the numbers of the text without that character. -/
def write (codes : List Nat) : List Char × Reading :=
  match _h : lastGreatest? codes with
  | none => ([], .begin codes)
  | some (code, spot) =>
    let done := write (codes.eraseIdx spot)
    (done.1 ++ writeNumber done.2.bias 36 (done.2.distance code spot), done.2.put code spot)
termination_by codes.length
decreasing_by
  have := lt_length_of_lastGreatest? ‹_›
  rw [List.length_eraseIdx_of_lt this]
  omega

/-- Writes a text. -/
def encode (codes : List Nat) : List Char :=
  let ascii := (codes.filter (· < 0x80)).map Char.ofNat
  (if ascii = [] then [] else ascii ++ ['-']) ++ (write codes).1

end ToolGateway.Text.Punycode
