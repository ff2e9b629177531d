import ToolGateway.Text.Utf8

/-!
# The order of UTF-8 bytes

Texts are compared by their characters, and that is also the order of their UTF-8 bytes: characters
with more bytes begin with greater ones, and those with equally many have their bits in the order of
their weight.
-/

namespace ToolGateway.Text.Utf8

variable {m n v w : Nat} {rest rest' : Bytes}

/-- A smaller byte in front decides. -/
theorem cons_lt_cons_of_lt (hlt : m < n) (hn : n < 256) :
    UInt8.ofNat m :: rest < UInt8.ofNat n :: rest' := by
  have hm : (UInt8.ofNat m).toNat = m := UInt8.toNat_ofNat_of_lt (Nat.lt_trans hlt hn)
  have hn' : (UInt8.ofNat n).toNat = n := UInt8.toNat_ofNat_of_lt hn
  apply List.cons_lt_cons_iff.mpr
  left
  rw [UInt8.lt_iff_toNat_lt, hm, hn']
  exact hlt

/-- Behind the same byte the rest decides. -/
theorem cons_lt_cons_of_eq (heq : m = n) (h : rest < rest') :
    UInt8.ofNat m :: rest < UInt8.ofNat n :: rest' :=
  List.cons_lt_cons_iff.mpr (Or.inr ⟨congrArg UInt8.ofNat heq, h⟩)

/-! ## Bytes behind the first one -/

/-- The last byte decides between numbers that differ in their last six bits only. -/
theorem last_lt (hlt : v < w) (hsame : v / 64 = w / 64) :
    UInt8.ofNat (v % 64 + 128) :: rest < UInt8.ofNat (w % 64 + 128) :: rest' :=
  cons_lt_cons_of_lt (by omega) (by omega)

/-- The last two bytes decide between those that differ in their last twelve bits only. -/
theorem lastTwo_lt (hlt : v < w) (hsame : v / 4096 = w / 4096) :
    UInt8.ofNat (v / 64 % 64 + 128) :: UInt8.ofNat (v % 64 + 128) :: rest <
      UInt8.ofNat (w / 64 % 64 + 128) :: UInt8.ofNat (w % 64 + 128) :: rest' := by
  by_cases hhigh : v / 64 = w / 64
  · exact cons_lt_cons_of_eq (by omega) (last_lt hlt hhigh)
  · exact cons_lt_cons_of_lt (by omega) (by omega)

/-- The last three bytes decide between those that differ in their last eighteen bits only. -/
theorem lastThree_lt (hlt : v < w) (hsame : v / 262144 = w / 262144) :
    UInt8.ofNat (v / 4096 % 64 + 128) :: UInt8.ofNat (v / 64 % 64 + 128) ::
        UInt8.ofNat (v % 64 + 128) :: rest <
      UInt8.ofNat (w / 4096 % 64 + 128) :: UInt8.ofNat (w / 64 % 64 + 128) ::
        UInt8.ofNat (w % 64 + 128) :: rest' := by
  by_cases hhigh : v / 4096 = w / 4096
  · exact cons_lt_cons_of_eq (by omega) (lastTwo_lt hlt hhigh)
  · exact cons_lt_cons_of_lt (by omega) (by omega)

/-! ## Characters and texts -/

/-- A smaller character has smaller bytes, whatever follows them. -/
theorem utf8EncodeChar_append_lt {c d : Char} (h : c < d) (rest rest' : Bytes) :
    String.utf8EncodeChar c ++ rest < String.utf8EncodeChar d ++ rest' := by
  have hlt : c.val.toNat < d.val.toNat := h
  have hbound : d.val.toNat < 0x110000 := by
    have hvalid : d.val.toNat < 0xD800 ∨ 0xDFFF < d.val.toNat ∧ d.val.toNat < 0x110000 := d.valid
    omega
  unfold String.utf8EncodeChar
  generalize c.val.toNat = v at hlt
  generalize d.val.toNat = w at hlt hbound
  dsimp only
  -- One case for each length of the smaller character; a longer one has a greater first byte.
  by_cases hone : v ≤ 127
  · rw [if_pos hone]
    split
    · exact cons_lt_cons_of_lt hlt (by omega)
    · split
      · exact cons_lt_cons_of_lt (by omega) (by omega)
      · split <;> exact cons_lt_cons_of_lt (by omega) (by omega)
  · rw [if_neg hone, if_neg (by omega : ¬ w ≤ 127)]
    by_cases htwo : v ≤ 2047
    · rw [if_pos htwo]
      split
      · by_cases hhigh : v / 64 = w / 64
        · exact cons_lt_cons_of_eq (by omega) (last_lt hlt hhigh)
        · exact cons_lt_cons_of_lt (by omega) (by omega)
      · split <;> exact cons_lt_cons_of_lt (by omega) (by omega)
    · rw [if_neg htwo, if_neg (by omega : ¬ w ≤ 2047)]
      by_cases hthree : v ≤ 65535
      · rw [if_pos hthree]
        split
        · by_cases hhigh : v / 4096 = w / 4096
          · exact cons_lt_cons_of_eq (by omega) (lastTwo_lt hlt hhigh)
          · exact cons_lt_cons_of_lt (by omega) (by omega)
        · exact cons_lt_cons_of_lt (by omega) (by omega)
      · rw [if_neg hthree, if_neg (by omega : ¬ w ≤ 65535)]
        by_cases hhigh : v / 262144 = w / 262144
        · exact cons_lt_cons_of_eq (by omega) (lastThree_lt hlt hhigh)
        · exact cons_lt_cons_of_lt (by omega) (by omega)

/-- Smaller characters have smaller bytes. -/
theorem encodeChars_lt {cs ds : List Char} (h : cs < ds) : encodeChars cs < encodeChars ds := by
  induction cs generalizing ds with
  | nil =>
    cases ds with
    | nil => exact absurd h (List.not_lt_nil _)
    | cons d ds =>
      obtain ⟨b, more, hbytes⟩ :=
        List.exists_cons_of_ne_nil (String.utf8EncodeChar_ne_nil (c := d))
      rw [encodeChars, encodeChars, List.flatMap_nil, List.flatMap_cons, hbytes]
      exact List.nil_lt_cons _ _
  | cons c cs ih =>
    cases ds with
    | nil => exact absurd h (List.not_lt_nil _)
    | cons d ds =>
      rw [encodeChars, List.flatMap_cons, encodeChars, List.flatMap_cons]
      rcases List.cons_lt_cons_iff.mp h with hlt | ⟨rfl, hrest⟩
      · exact utf8EncodeChar_append_lt hlt _ _
      · exact List.append_left_lt (ih hrest)

/-- The order of texts is that of their bytes. -/
theorem encode_lt {s t : String} (h : s < t) : encode s < encode t :=
  encodeChars_lt (String.lt_iff.mp h)

end ToolGateway.Text.Utf8
