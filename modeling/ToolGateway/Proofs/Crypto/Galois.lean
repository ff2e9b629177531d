import Mathlib.Logic.Function.Iterate
import ToolGateway.Crypto.Gcm

/-!
# What Galois counter mode writes

The masked text is as long as the text, and each of its bytes is that of the text with the byte of
the key stream at its place. The hash of a list of blocks is the value of the polynomial that has
them as coefficients, because multiplying by the key is linear. Both are said without the loops that
compute them, and for every block cipher.
-/

namespace ToolGateway.Gcm

variable {cipher : Block → Block} {nonce : Bytes}

/-! ## The key stream -/

/-- The byte of the key stream at a place, where the first block is that of a counter. -/
def streamByte (cipher : Block → Block) (nonce : Bytes) (counter place : Nat) : UInt8 :=
  (cipher (counterBlock nonce (counter + place / 16))).byteAt (place % 16)

/-- A byte of a block stands at its place. -/
theorem getElem?_toBytes (b : Block) {place : Nat} (h : place < 16) :
    b.toBytes[place]? = some (b.byteAt place) := by
  simp [Block.toBytes, h]

/-- Masking keeps the length. -/
theorem length_mask (counter : Nat) (bytes : Bytes) :
    (mask cipher nonce counter bytes).length = bytes.length := by
  fun_induction mask cipher nonce counter bytes with
  | case1 => rfl
  | case2 counter b rest ih =>
    rw [List.length_append, ih, List.length_zipWith, Block.length_toBytes, List.length_cons,
      List.length_cons, List.length_take, List.length_drop]
    omega

/-- Every byte is masked by that of the key stream at its place. -/
theorem getElem?_mask (counter : Nat) (bytes : Bytes) (place : Nat) :
    (mask cipher nonce counter bytes)[place]? =
      bytes[place]?.map (· ^^^ streamByte cipher nonce counter place) := by
  fun_induction mask cipher nonce counter bytes generalizing place with
  | case1 => rfl
  | case2 counter b rest ih =>
    have hpiece : b :: rest.take 15 = (b :: rest).take 16 := rfl
    have hlater : rest.drop 15 = (b :: rest).drop 16 := rfl
    rw [hpiece]
    rw [hlater] at ih ⊢
    generalize b :: rest = bytes at ih ⊢
    have hlength : (List.zipWith (· ^^^ ·) (bytes.take 16)
        (cipher (counterBlock nonce counter)).toBytes).length = min 16 bytes.length := by
      rw [List.length_zipWith, List.length_take, Block.length_toBytes]
      omega
    by_cases hplace : place < min 16 bytes.length
    · rw [List.getElem?_append_left (hlength ▸ hplace), List.getElem?_zipWith,
        getElem?_toBytes _ (by omega), List.getElem?_take_of_lt (by omega), streamByte,
        Nat.div_eq_of_lt (by omega), Nat.mod_eq_of_lt (by omega), Nat.add_zero]
      cases bytes[place]? <;> rfl
    · rw [List.getElem?_append_right (by omega), ih, hlength, List.getElem?_drop]
      by_cases hshort : bytes.length ≤ place
      · rw [List.getElem?_eq_none (by omega), List.getElem?_eq_none hshort]
        rfl
      · -- The place lies in a later block.
        obtain ⟨later, rfl⟩ : ∃ later, place = 16 + later := ⟨place - 16, by omega⟩
        have hsame : 16 + later - min 16 bytes.length = later := by omega
        rw [hsame, streamByte, streamByte, Nat.add_div_left _ (by decide), Nat.add_mod_left,
          Nat.add_assoc, Nat.add_comm 1]

/-! ## The hash -/

/-- A polynomial without a constant term at a point: the last coefficient is multiplied by the point
once, the one before it twice, and so on. -/
def polynomial (point : Block) : List Block → Block
  | [] => 0
  | b :: rest => (fun c => mul c point)^[rest.length + 1] b ^^^ polynomial point rest

/-- Bits are taken in one by one, so those of a sum are those of its parts. -/
theorem mulBits_xor (x y v a b : Block) (bits : Nat) :
    mulBits (x ^^^ y) v (a ^^^ b) bits = mulBits x v a bits ^^^ mulBits y v b bits := by
  induction bits generalizing v a b with
  | zero => rfl
  | succ bits ih =>
    rw [mulBits, mulBits, mulBits, ← ih]
    congr 1
    rw [BitVec.getLsbD_xor]
    cases x.getLsbD bits <;> cases y.getLsbD bits
    · rfl
    · exact BitVec.xor_assoc a b v
    · change a ^^^ b ^^^ v = a ^^^ v ^^^ b
      ac_rfl
    · have hmoved : a ^^^ v ^^^ (b ^^^ v) = a ^^^ b ^^^ (v ^^^ v) := by ac_rfl
      change a ^^^ b = a ^^^ v ^^^ (b ^^^ v)
      rw [hmoved, BitVec.xor_self, BitVec.xor_zero]

/-- Multiplying is linear in the first factor. -/
theorem mul_xor (x y z : Block) : mul (x ^^^ y) z = mul x z ^^^ mul y z := by
  have h := mulBits_xor x y z 0 0 128
  rwa [BitVec.xor_self] at h

/-- So is multiplying several times. -/
theorem iterate_mul_xor (point x y : Block) (n : Nat) :
    (fun c => mul c point)^[n] (x ^^^ y) =
      (fun c => mul c point)^[n] x ^^^ (fun c => mul c point)^[n] y := by
  induction n generalizing x y with
  | zero => rfl
  | succ n ih => rw [Function.iterate_succ_apply, mul_xor, ih]; rfl

/-- What was hashed before is multiplied on with every further block. -/
theorem foldl_hash (point acc : Block) (blocks : List Block) :
    blocks.foldl (fun acc block => mul (acc ^^^ block) point) acc =
      (fun c => mul c point)^[blocks.length] acc ^^^ polynomial point blocks := by
  induction blocks generalizing acc with
  | nil => simp [polynomial]
  | cons b rest ih =>
    rw [List.foldl_cons, ih, mul_xor, iterate_mul_xor, BitVec.xor_assoc]
    rfl

/-- The hash is the value of the polynomial that has the blocks as coefficients. -/
theorem hash_eq_polynomial (point : Block) (blocks : List Block) :
    hash point blocks = polynomial point blocks := by
  have hzero : (fun c => mul c point)^[blocks.length] 0 = 0 := by
    have h := iterate_mul_xor point 0 0 blocks.length
    rwa [BitVec.xor_self, BitVec.xor_self] at h
  rw [hash, foldl_hash, hzero]
  exact BitVec.zero_xor

end ToolGateway.Gcm
