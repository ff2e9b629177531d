import ToolGateway.Text.Hex

/-!
# Blocks of 128 bits

A block is a word of 128 bits, written as sixteen bytes with the highest first.
-/

namespace ToolGateway

/-- A word of 128 bits. -/
abbrev Block := BitVec 128

namespace Block

/-- The natural that bytes stand for, the highest first, behind `n`. -/
def natOfBytes (n : Nat) : Bytes → Nat
  | [] => n
  | b :: rest => natOfBytes (n * 256 + b.toNat) rest

/-- The block of at most sixteen bytes; zeros stand for those that are missing at the end. -/
def ofBytes (bytes : Bytes) : Block :=
  BitVec.ofNat 128 (natOfBytes 0 bytes * Nat.pow 256 (16 - bytes.length))

/-- The byte of a block at a place; place zero is the highest. -/
def byteAt (b : Block) (place : Nat) : UInt8 :=
  UInt8.ofNat (b.toNat / Nat.pow 256 (15 - place) % 256)

/-- The sixteen bytes of a block. -/
def toBytes (b : Block) : Bytes := (List.range 16).map b.byteAt

@[simp] theorem length_toBytes (b : Block) : b.toBytes.length = 16 := by simp [toBytes]

end Block

end ToolGateway
