/-!
# Bytes and their hexadecimal digits

A byte string is a list of bytes. Hexadecimal digits are written in one case and read in either.
-/

namespace ToolGateway

/-- A string of bytes. -/
abbrev Bytes := List UInt8

namespace Text

/-- The digit for a value below sixteen, in small letters. -/
def lowerHexDigit (n : Nat) : Char := Char.ofNat (if n < 10 then 0x30 + n else 0x57 + n)

/-- The digit for a value below sixteen, in capital letters. -/
def upperHexDigit (n : Nat) : Char := Char.ofNat (if n < 10 then 0x30 + n else 0x37 + n)

/-- The value of the ASCII code of a hexadecimal digit. -/
def hexCodeValue? (n : Nat) : Option Nat :=
  if 0x30 ≤ n ∧ n ≤ 0x39 then some (n - 0x30)
  else if 0x41 ≤ n ∧ n ≤ 0x46 then some (n - 0x37)
  else if 0x61 ≤ n ∧ n ≤ 0x66 then some (n - 0x57)
  else none

/-- The value of a hexadecimal digit. -/
def hexValue? (c : Char) : Option Nat := hexCodeValue? c.toNat

/-- The two digits of each byte, in small letters. -/
def hexOfBytes (bytes : Bytes) : String :=
  String.ofList (bytes.flatMap fun b =>
    [lowerHexDigit (b.toNat / 16), lowerHexDigit (b.toNat % 16)])

end Text

end ToolGateway
