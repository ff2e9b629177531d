import ToolGateway.Text.Hex

/-!
# Percent encoding

A byte may be written as a percent sign and two hexadecimal digits. Writing escapes the bytes of a
given set and passes on the others; reading takes any escape and leaves a percent sign without two
digits as it is.
-/

namespace ToolGateway.Text.Percent

/-- The percent sign. -/
def sign : UInt8 := 0x25

/-- The byte that two digits stand for. -/
def byte? (high low : UInt8) : Option UInt8 := do
  return UInt8.ofNat ((← hexCodeValue? high.toNat) * 16 + (← hexCodeValue? low.toNat))

/-- Reads escapes, on top of what was read before, in reverse. -/
def decodeOnto (done : Bytes) : Bytes → Bytes
  | [] => done.reverse
  | b :: rest =>
    if b = sign then
      match rest with
      | high :: low :: rest' =>
        match byte? high low with
        | some v => decodeOnto (v :: done) rest'
        | none => decodeOnto (b :: done) (high :: low :: rest')
      | rest => decodeOnto (b :: done) rest
    else decodeOnto (b :: done) rest
termination_by bytes => bytes.length

/-- Reads escapes. -/
def decode (bytes : Bytes) : Bytes := decodeOnto [] bytes

/-- The code of the digit for a value below sixteen, in capital letters. -/
def digitCode (n : Nat) : UInt8 := UInt8.ofNat (upperHexDigit n).toNat

/-- The escape of a byte. -/
def escape (b : UInt8) : Bytes := [sign, digitCode (b.toNat / 16), digitCode (b.toNat % 16)]

/-- Escapes the bytes of a set. -/
def encode (escaped : UInt8 → Bool) (bytes : Bytes) : Bytes :=
  bytes.flatMap fun b => if escaped b then escape b else [b]

end ToolGateway.Text.Percent
