import ToolGateway.Crypto.Block

/-!
# AES with keys of 256 bits

The block cipher: fourteen rounds of substitution, row shifts, column mixing and key addition on
sixteen bytes, which stand column after column.
-/

namespace ToolGateway.Aes

/-! ## Bytes as polynomials -/

/-- Multiplies a byte by `x`. -/
def double (b : UInt8) : UInt8 := if b < 0x80 then b <<< 1 else (b <<< 1) ^^^ 0x1b

/-- The product of two bytes, taking in `bits` bits of the second one. -/
def mulBits (a b acc : UInt8) : (bits : Nat) → UInt8
  | 0 => acc
  | bits + 1 => mulBits (double a) (b >>> 1) (if b &&& 1 = 1 then acc ^^^ a else acc) bits

/-- The product of two bytes. -/
def mul (a b : UInt8) : UInt8 := mulBits a b 0 8

/-- The inverse of a byte, zero being its own: the power 254. -/
def inverse (b : UInt8) : UInt8 :=
  let square (x : UInt8) : UInt8 := mul x x
  let b2 := square b
  let b4 := square b2
  let b8 := square b4
  let b16 := square b8
  let b32 := square b16
  let b64 := square b32
  let b128 := square b64
  mul b2 (mul b4 (mul b8 (mul b16 (mul b32 (mul b64 b128)))))

/-- Rotates a byte to the left. -/
def rotate (b : UInt8) (n : UInt8) : UInt8 := (b <<< n) ||| (b >>> (8 - n))

/-- The substitute of a byte. -/
def substitute (b : UInt8) : UInt8 :=
  let i := inverse b
  i ^^^ rotate i 1 ^^^ rotate i 2 ^^^ rotate i 3 ^^^ rotate i 4 ^^^ 0x63

/-- The substitutes of all bytes. -/
def substitutes : Array UInt8 := ((List.range 256).map fun n => substitute (UInt8.ofNat n)).toArray

/-- The substitute of a byte, looked up. -/
def lookUp (b : UInt8) : UInt8 := substitutes.getD b.toNat 0

/-! ## Keys -/

/-- Adds two byte strings bit by bit. -/
def add (xs ys : Bytes) : Bytes := List.zipWith (· ^^^ ·) xs ys

/-- The constant of every eighth key word. -/
def roundConstant : Nat → UInt8
  | 0 => 1
  | n + 1 => double (roundConstant n)

/-- The key word number `words.size`. -/
def nextKeyWord (words : Array Bytes) : Bytes :=
  let n := words.size
  let last := words.getD (n - 1) []
  let changed :=
    if n % 8 = 0 then
      match last with
      | a :: rest => add ((rest ++ [a]).map lookUp) [roundConstant (n / 8 - 1), 0, 0, 0]
      | [] => []
    else if n % 8 = 4 then last.map lookUp
    else last
  add (words.getD (n - 8) []) changed

/-- Groups of so many bytes each. -/
def groups (size : Nat) (bytes : Bytes) : (count : Nat) → List Bytes
  | 0 => []
  | count + 1 => bytes.take size :: groups size (bytes.drop size) count

/-- The fifteen round keys of a key of thirty-two bytes. -/
def roundKeys (key : Bytes) : List Bytes :=
  let words : Array Bytes :=
    Nat.rec (groups 4 key 8).toArray (fun _ ws => ws.push (nextKeyWord ws)) 52
  groups 16 words.toList.flatten 15

/-! ## Rounds -/

/-- Shifts the rows: row `r` moves by `r` columns. -/
def shiftRows (state : Bytes) : Bytes :=
  let cells := state.toArray
  (List.range 16).map fun i => cells.getD ((i + 4 * (i % 4)) % 16) 0

/-- Mixes one column. -/
def mixColumn : Bytes → Bytes
  | [a, b, c, d] =>
    let all := a ^^^ b ^^^ c ^^^ d
    [a ^^^ all ^^^ double (a ^^^ b), b ^^^ all ^^^ double (b ^^^ c),
      c ^^^ all ^^^ double (c ^^^ d), d ^^^ all ^^^ double (d ^^^ a)]
  | other => other

/-- Mixes all columns. -/
def mixColumns (state : Bytes) : Bytes := (groups 4 state 4).flatMap mixColumn

/-- The rounds after the first key addition; the last one mixes no columns. -/
def rounds (state : Bytes) : List Bytes → Bytes
  | [] => state
  | [key] => add (shiftRows (state.map lookUp)) key
  | key :: keys => rounds (add (mixColumns (shiftRows (state.map lookUp))) key) keys

/-- Enciphers one block under round keys. -/
def encipherBytes (keys : List Bytes) (state : Bytes) : Bytes :=
  match keys with
  | [] => state
  | key :: keys => rounds (add state key) keys

/-- The block cipher of a key. -/
def cipher (key : Bytes) : Block → Block :=
  let keys := roundKeys key
  fun block => Block.ofBytes (encipherBytes keys block.toBytes)

end ToolGateway.Aes
