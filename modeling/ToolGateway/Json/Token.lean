import ToolGateway.Text.Hex

/-!
# JSON tokens

The tokens of a JSON text, cut from bytes. A token keeps all that was written: a string is a list
of pieces that are neither decoded nor checked beyond their form, and a number keeps its digits.
What the pieces and digits amount to is decided later, and only for the parts of a text that
somebody reads; so a part that is skipped may hold broken UTF-8, half of a surrogate pair or a
number of any size.
-/

namespace ToolGateway.Json

/-- A part of a written string. -/
inductive Piece where
  /-- A byte that stands for itself. -/
  | byte (b : UInt8)
  /-- An escape of one letter. -/
  | escaped (c : Char)
  /-- An escape of four hexadecimal digits. -/
  | unit (n : Nat)
  deriving DecidableEq, Repr

/-- A written number: its sign, the digits before and after the point, and its exponent. -/
structure Literal where
  negative : Bool
  whole : List Nat
  fraction : List Nat
  exponent : Option Int
  deriving DecidableEq, Repr

/-- A token. -/
inductive Token where
  | openArray
  | closeArray
  | openObject
  | closeObject
  | comma
  | colon
  | null
  | bool (b : Bool)
  | number (literal : Literal)
  | string (pieces : List Piece)
  deriving DecidableEq, Repr

/-- The character with the number of a byte; below 128 it is the ASCII character. -/
def charOfByte (b : UInt8) : Char := Char.ofNat b.toNat

/-- The bytes that may stand between tokens. -/
def isSpace (b : UInt8) : Bool := b = 0x20 || b = 0x09 || b = 0x0A || b = 0x0D

/-- What a letter after a backslash stands for. -/
def escape? : Char → Option Char
  | '"' => some '"'
  | '\\' => some '\\'
  | '/' => some '/'
  | 'b' => some '\x08'
  | 'f' => some '\x0c'
  | 'n' => some '\n'
  | 'r' => some '\r'
  | 't' => some '\t'
  | _ => none

/-- The number written as four hexadecimal digits. -/
def unit? (a b c d : UInt8) : Option Nat := do
  return (((← Text.hexCodeValue? a.toNat) * 16 + (← Text.hexCodeValue? b.toNat)) * 16
    + (← Text.hexCodeValue? c.toNat)) * 16 + (← Text.hexCodeValue? d.toNat)

/-- Reads a string up to its closing quotation mark, after the pieces read so far (the last one
first). -/
def takeString (done : List Piece) : Bytes → Option (List Piece × Bytes)
  | [] => none
  | b :: rest =>
    match charOfByte b with
    | '"' => some (done.reverse, rest)
    | '\\' =>
      match rest with
      | [] => none
      | e :: rest =>
        match charOfByte e with
        | 'u' =>
          match rest with
          | h₁ :: h₂ :: h₃ :: h₄ :: rest =>
            match unit? h₁ h₂ h₃ h₄ with
            | some n => takeString (.unit n :: done) rest
            | none => none
          | _ => none
        | letter =>
          match escape? letter with
          | some c => takeString (.escaped c :: done) rest
          | none => none
    | _ => if b < 0x20 then none else takeString (.byte b :: done) rest

/-- The value of a decimal digit. -/
def digit? (b : UInt8) : Option Nat :=
  if 0x30 ≤ b ∧ b ≤ 0x39 then some (b.toNat - 0x30) else none

/-- Reads as many decimal digits as there are, after those read so far (the last one first). -/
def takeDigits (done : List Nat) : Bytes → List Nat × Bytes
  | [] => (done.reverse, [])
  | b :: rest =>
    match digit? b with
    | some d => takeDigits (d :: done) rest
    | none => (done.reverse, b :: rest)

/-- The natural that digits stand for. -/
def natOfDigits (digits : List Nat) : Nat := digits.foldl (fun n d => n * 10 + d) 0

/-- Reads digits after the point, if there is a point. -/
def takeFraction : Bytes → Option (List Nat × Bytes)
  | 0x2E :: rest =>
    match takeDigits [] rest with
    | ([], _) => none
    | (digits, rest) => some (digits, rest)
  | rest => some ([], rest)

/-- Reads the digits of an exponent behind its sign. -/
def takeExponentDigits (negative : Bool) (bytes : Bytes) : Option (Option Int × Bytes) :=
  match takeDigits [] bytes with
  | ([], _) => none
  | (digits, rest) =>
    let n : Int := natOfDigits digits
    some (some (if negative then -n else n), rest)

/-- Reads an exponent, if there is one. -/
def takeExponent : Bytes → Option (Option Int × Bytes)
  | [] => some (none, [])
  | b :: rest =>
    if b = 0x65 ∨ b = 0x45 then
      match rest with
      | 0x2B :: rest => takeExponentDigits false rest
      | 0x2D :: rest => takeExponentDigits true rest
      | rest => takeExponentDigits false rest
    else some (none, b :: rest)

/-- Reads the digits before the point. A zero stands alone. -/
def takeWhole : Bytes → Option (List Nat × Bytes)
  | 0x30 :: rest => some ([0], rest)
  | bytes =>
    match takeDigits [] bytes with
    | ([], _) => none
    | found => some found

/-- Reads a number behind its sign. -/
def takeNumber (negative : Bool) (bytes : Bytes) : Option (Literal × Bytes) := do
  let (whole, rest) ← takeWhole bytes
  let (fraction, rest) ← takeFraction rest
  let (exponent, rest) ← takeExponent rest
  return (⟨negative, whole, fraction, exponent⟩, rest)

/-- Reads the rest of a word. -/
def takeWord (token : Token) : (word : List UInt8) → Bytes → Option (Token × Bytes)
  | [], rest => some (token, rest)
  | _ :: _, [] => none
  | w :: word, b :: rest => if w = b then takeWord token word rest else none

/-- Reads the token that begins with a byte. -/
def next? (b : UInt8) (rest : Bytes) : Option (Token × Bytes) :=
  match charOfByte b with
  | '[' => some (.openArray, rest)
  | ']' => some (.closeArray, rest)
  | '\x7b' => some (.openObject, rest)
  | '\x7d' => some (.closeObject, rest)
  | ',' => some (.comma, rest)
  | ':' => some (.colon, rest)
  | 'n' => takeWord .null [0x75, 0x6C, 0x6C] rest
  | 't' => takeWord (.bool true) [0x72, 0x75, 0x65] rest
  | 'f' => takeWord (.bool false) [0x61, 0x6C, 0x73, 0x65] rest
  | '"' => (takeString [] rest).map fun (pieces, rest) => (.string pieces, rest)
  | '-' => (takeNumber true rest).map fun (literal, rest) => (.number literal, rest)
  | _ =>
    if (digit? b).isSome then
      (takeNumber false (b :: rest)).map fun (literal, rest) => (.number literal, rest)
    else none

/-! ## Every token takes its share of the bytes -/

theorem length_takeString_lt {done : List Piece} {bytes : Bytes} {found : List Piece × Bytes}
    (h : takeString done bytes = some found) : found.2.length < bytes.length := by
  fun_induction takeString done bytes <;> grind

theorem length_takeDigits_le (done : List Nat) (bytes : Bytes) :
    (takeDigits done bytes).2.length ≤ bytes.length := by
  fun_induction takeDigits done bytes <;> grind

theorem length_takeFraction_le {bytes : Bytes} {found : List Nat × Bytes}
    (h : takeFraction bytes = some found) : found.2.length ≤ bytes.length := by
  unfold takeFraction at h
  split at h
  · rename_i rest
    have := length_takeDigits_le [] rest
    grind
  · grind

theorem length_takeExponentDigits_le {negative : Bool} {bytes : Bytes}
    {found : Option Int × Bytes} (h : takeExponentDigits negative bytes = some found) :
    found.2.length ≤ bytes.length := by
  have := length_takeDigits_le [] bytes
  unfold takeExponentDigits at h
  grind

theorem length_takeExponent_le {bytes : Bytes} {found : Option Int × Bytes}
    (h : takeExponent bytes = some found) : found.2.length ≤ bytes.length := by
  unfold takeExponent at h
  split at h
  · grind
  · split at h
    · split at h <;> have := length_takeExponentDigits_le h <;> grind
    · grind

theorem length_takeWhole_lt {bytes : Bytes} {found : List Nat × Bytes}
    (h : takeWhole bytes = some found) : found.2.length < bytes.length := by
  unfold takeWhole at h
  split at h
  · grind
  · cases bytes with
    | nil => simp [takeDigits] at h
    | cons b rest =>
      simp only [takeDigits] at h
      cases hd : digit? b with
      | none => simp [hd] at h
      | some d =>
        have := length_takeDigits_le [d] rest
        grind

theorem length_takeNumber_lt {negative : Bool} {bytes : Bytes} {found : Literal × Bytes}
    (h : takeNumber negative bytes = some found) : found.2.length < bytes.length := by
  simp only [takeNumber, Option.bind_eq_bind, Option.bind_eq_some_iff] at h
  obtain ⟨⟨whole, r₁⟩, h₁, ⟨fraction, r₂⟩, h₂, ⟨exponent, r₃⟩, h₃, h₄⟩ := h
  have := length_takeWhole_lt h₁
  have := length_takeFraction_le h₂
  have := length_takeExponent_le h₃
  cases h₄
  simp only at *
  omega

theorem length_takeWord_le {token : Token} {word : List UInt8} {bytes : Bytes}
    {found : Token × Bytes} (h : takeWord token word bytes = some found) :
    found.2.length ≤ bytes.length := by
  fun_induction takeWord token word bytes <;> grind

/-- The token that begins with a byte leaves no more than what follows that byte. -/
theorem length_next?_le {b : UInt8} {rest : Bytes} {found : Token × Bytes}
    (h : next? b rest = some found) : found.2.length ≤ rest.length := by
  unfold next? at h
  split at h
  case h_7 => exact length_takeWord_le h
  case h_8 => exact length_takeWord_le h
  case h_9 => exact length_takeWord_le h
  case h_10 =>
    obtain ⟨s, hs, rfl⟩ := Option.map_eq_some_iff.1 h
    exact Nat.le_of_lt (length_takeString_lt hs)
  case h_11 =>
    obtain ⟨s, hs, rfl⟩ := Option.map_eq_some_iff.1 h
    exact Nat.le_of_lt (length_takeNumber_lt hs)
  case h_12 =>
    split at h
    · obtain ⟨s, hs, rfl⟩ := Option.map_eq_some_iff.1 h
      exact Nat.le_of_lt_succ (length_takeNumber_lt hs)
    · cases h
  all_goals cases h; exact Nat.le_refl _

/-- Cuts bytes into tokens, after those cut so far (the last one first). -/
def cutTokens (done : List Token) : Bytes → Option (List Token)
  | [] => some done.reverse
  | b :: rest =>
    if isSpace b then cutTokens done rest
    else
      match _h : next? b rest with
      | none => none
      | some (token, rest) => cutTokens (token :: done) rest
termination_by bytes => bytes.length
decreasing_by
  · simp
  · exact Nat.lt_succ_of_le (length_next?_le _h)

/-- The tokens of a text. -/
def tokens? (bytes : Bytes) : Option (List Token) := cutTokens [] bytes

end ToolGateway.Json
