import ToolGateway.Text.Hex

/-!
# Base64

The standard alphabet with padding. Each byte string has one written form: decoding demands the
padding, in its place, and refuses a last digit whose unused bits are not zero.
-/

namespace ToolGateway.Text.Base64

/-- The digit for a value below sixty-four. -/
def digit (n : Nat) : Char :=
  Char.ofNat <|
    if n < 26 then 0x41 + n
    else if n < 52 then 0x61 + (n - 26)
    else if n < 62 then 0x30 + (n - 52)
    else if n = 62 then 0x2B
    else 0x2F

/-- The value of a digit. -/
def value? (c : Char) : Option Nat :=
  let n := c.toNat
  if 0x41 ≤ n ∧ n ≤ 0x5A then some (n - 0x41)
  else if 0x61 ≤ n ∧ n ≤ 0x7A then some (n - 0x61 + 26)
  else if 0x30 ≤ n ∧ n ≤ 0x39 then some (n - 0x30 + 52)
  else if n = 0x2B then some 62
  else if n = 0x2F then some 63
  else none

/-- The written form of a byte string. -/
def encodeChars : Bytes → List Char
  | [] => []
  | [a] => [digit (a.toNat / 4), digit (a.toNat % 4 * 16), '=', '=']
  | [a, b] =>
    [digit (a.toNat / 4), digit (a.toNat % 4 * 16 + b.toNat / 16), digit (b.toNat % 16 * 4), '=']
  | a :: b :: c :: rest =>
    digit (a.toNat / 4) :: digit (a.toNat % 4 * 16 + b.toNat / 16)
      :: digit (b.toNat % 16 * 4 + c.toNat / 64) :: digit (c.toNat % 64) :: encodeChars rest

/-- The written form of a byte string, as text. -/
def encode (bytes : Bytes) : String := String.ofList (encodeChars bytes)

/-- One byte from two digits, the second of which holds no further bits. -/
def lastOne (v w : Nat) : Option Bytes :=
  if w % 16 = 0 then some [UInt8.ofNat (v * 4 + w / 16)] else none

/-- Two bytes from three digits, the third of which holds no further bits. -/
def lastTwo (v w x : Nat) : Option Bytes :=
  if x % 4 = 0 then some [UInt8.ofNat (v * 4 + w / 16), UInt8.ofNat (w % 16 * 16 + x / 4)] else none

/-- Three bytes from four digits. -/
def three (v w x y : Nat) : Bytes :=
  [UInt8.ofNat (v * 4 + w / 16), UInt8.ofNat (w % 16 * 16 + x / 4), UInt8.ofNat (x % 4 * 64 + y)]

/-- Reads a written form. -/
def decodeChars? : List Char → Option Bytes
  | [] => some []
  | [a, b, '=', '='] => do lastOne (← value? a) (← value? b)
  | [a, b, c, '='] => do lastTwo (← value? a) (← value? b) (← value? c)
  | a :: b :: c :: d :: rest => do
    let front := three (← value? a) (← value? b) (← value? c) (← value? d)
    return front ++ (← decodeChars? rest)
  | _ => none

/-- Reads a written form given as text. -/
def decode? (s : String) : Option Bytes := decodeChars? s.toList

end ToolGateway.Text.Base64
