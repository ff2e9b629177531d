import ToolGateway.Crypto.Block

/-!
# Authenticated encryption in counter mode

Galois counter mode over an arbitrary block cipher, with a nonce of twelve bytes, a tag of sixteen
bytes and no associated data. Block number `i` of the text is masked by the cipher of the nonce
followed by `i + 2`; the tag is a polynomial hash of the masked text, masked by the cipher of the
nonce followed by one.

The cipher is a parameter: nothing here depends on which one it is.
-/

namespace ToolGateway.Gcm

/-- The number of bytes of a nonce. -/
def nonceLength : Nat := 12

/-- The number of bytes of a tag. -/
def tagLength : Nat := 16

/-- The low terms of the field polynomial, in reflected order. -/
def reduction : Block := (0xE1 : Block) <<< (120 : Nat)

/-- Multiplies by the unknown of the field. -/
def timesUnknown (v : Block) : Block := if v.getLsbD 0 then (v >>> 1) ^^^ reduction else v >>> 1

/-- The product of two field elements, taking in the last `bits` bits of the first one. -/
def mulBits (x v acc : Block) : (bits : Nat) → Block
  | 0 => acc
  | bits + 1 =>
    mulBits x (timesUnknown v) (if x.getLsbD bits then acc ^^^ v else acc) bits

/-- The product of two field elements. -/
def mul (x y : Block) : Block := mulBits x y 0 128

/-- The polynomial hash of blocks. -/
def hash (key : Block) (blocks : List Block) : Block :=
  blocks.foldl (fun acc block => mul (acc ^^^ block) key) 0

/-- The blocks of a byte string; zeros fill up the last one. -/
def blocksOf : Bytes → List Block
  | [] => []
  | b :: rest => Block.ofBytes (b :: rest.take 15) :: blocksOf (rest.drop 15)
termination_by bytes => bytes.length
decreasing_by simp only [List.length_drop, List.length_cons]; omega

/-- The nonce followed by a counter of 32 bits. -/
def counterBlock (nonce : Bytes) (counter : Nat) : Block :=
  BitVec.ofNat 128 (Block.natOfBytes 0 nonce * UInt32.size + counter % UInt32.size)

/-- Masks a byte string with the ciphers of successive counters. Masking twice gives back the
string. -/
def mask (cipher : Block → Block) (nonce : Bytes) (counter : Nat) : Bytes → Bytes
  | [] => []
  | b :: rest =>
    List.zipWith (· ^^^ ·) (b :: rest.take 15) (cipher (counterBlock nonce counter)).toBytes
      ++ mask cipher nonce (counter + 1) (rest.drop 15)
termination_by bytes => bytes.length
decreasing_by simp only [List.length_drop, List.length_cons]; omega

/-- The tag of a masked text. -/
def tag (cipher : Block → Block) (nonce masked : Bytes) : Bytes :=
  let lengths : Block := BitVec.ofNat 128 (masked.length * 8)
  (hash (cipher 0) (blocksOf masked ++ [lengths]) ^^^ cipher (counterBlock nonce 1)).toBytes

/-- Encrypts: the masked text followed by its tag. -/
def encrypt (cipher : Block → Block) (nonce plain : Bytes) : Bytes :=
  let masked := mask cipher nonce 2 plain
  masked ++ tag cipher nonce masked

/-- Decrypts, if the tag is the one that belongs to the masked text. -/
def decrypt? (cipher : Block → Block) (nonce data : Bytes) : Option Bytes :=
  if data.length < tagLength then none
  else
    let masked := data.take (data.length - tagLength)
    if data.drop (data.length - tagLength) = tag cipher nonce masked then
      some (mask cipher nonce 2 masked)
    else none

end ToolGateway.Gcm
