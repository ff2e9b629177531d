import ToolGateway.Proofs.Text.WellFormed

/-!
# One written form

What is read from a text of Base64 digits is written as that same text, because the padding and the
unused bits of the last digit are checked. So a byte string is read from its own written form and
from no other text, just as a text is read from its own UTF-8 bytes and from no others.
-/

namespace ToolGateway.Text

namespace Base64

variable {c : Char} {v w x y : Nat} {bytes : Bytes}

/-- Characters beyond ASCII have no value. -/
theorem lt_of_value? (h : value? c = some v) : c.toNat < 0x80 := by
  unfold value? at h
  dsimp only at h
  grind

/-- A character with a value is the digit for it. -/
theorem of_value? (h : value? c = some v) : v < 64 ∧ digit v = c := by
  have hdigits : ∀ n < 0x80, ∀ v ∈ value? (Char.ofNat n), v < 64 ∧ digit v = Char.ofNat n := by
    decide
  have hc := hdigits c.toNat (lt_of_value? h)
  rw [Char.ofNat_toNat] at hc
  exact hc v h

/-- A byte has the number that it was made of. -/
theorem toNat_ofNat {n : Nat} (h : n < 256) : (UInt8.ofNat n).toNat = n :=
  UInt8.toNat_ofNat_of_lt h

/-- One byte is written with the two digits that it was read from. -/
theorem encodeChars_of_lastOne (hv : v < 64) (hw : w < 64) (h : lastOne v w = some bytes) :
    encodeChars bytes = [digit v, digit w, '=', '='] := by
  unfold lastOne at h
  split at h
  · obtain rfl := Option.some.inj h
    have hbyte : (UInt8.ofNat (v * 4 + w / 16)).toNat = v * 4 + w / 16 := toNat_ofNat (by omega)
    have hfirst : (v * 4 + w / 16) / 4 = v := by omega
    have hsecond : (v * 4 + w / 16) % 4 * 16 = w := by omega
    rw [encodeChars, hbyte, hfirst, hsecond]
  · cases h

/-- Two bytes are written with the three digits that they were read from. -/
theorem encodeChars_of_lastTwo (hv : v < 64) (hw : w < 64) (hx : x < 64)
    (h : lastTwo v w x = some bytes) :
    encodeChars bytes = [digit v, digit w, digit x, '='] := by
  unfold lastTwo at h
  split at h
  · obtain rfl := Option.some.inj h
    have hbyte₁ : (UInt8.ofNat (v * 4 + w / 16)).toNat = v * 4 + w / 16 := toNat_ofNat (by omega)
    have hbyte₂ : (UInt8.ofNat (w % 16 * 16 + x / 4)).toNat = w % 16 * 16 + x / 4 :=
      toNat_ofNat (by omega)
    have hfirst : (v * 4 + w / 16) / 4 = v := by omega
    have hsecond : (v * 4 + w / 16) % 4 * 16 + (w % 16 * 16 + x / 4) / 16 = w := by omega
    have hthird : (w % 16 * 16 + x / 4) % 16 * 4 = x := by omega
    rw [encodeChars, hbyte₁, hbyte₂, hfirst, hsecond, hthird]
  · cases h

/-- Three bytes are written with the four digits that they were read from. -/
theorem encodeChars_three_append (hv : v < 64) (hw : w < 64) (hx : x < 64) (hy : y < 64)
    (rest : Bytes) :
    encodeChars (three v w x y ++ rest) =
      digit v :: digit w :: digit x :: digit y :: encodeChars rest := by
  have hbyte₁ : (UInt8.ofNat (v * 4 + w / 16)).toNat = v * 4 + w / 16 := toNat_ofNat (by omega)
  have hbyte₂ : (UInt8.ofNat (w % 16 * 16 + x / 4)).toNat = w % 16 * 16 + x / 4 :=
    toNat_ofNat (by omega)
  have hbyte₃ : (UInt8.ofNat (x % 4 * 64 + y)).toNat = x % 4 * 64 + y := toNat_ofNat (by omega)
  have hfirst : (v * 4 + w / 16) / 4 = v := by omega
  have hsecond : (v * 4 + w / 16) % 4 * 16 + (w % 16 * 16 + x / 4) / 16 = w := by omega
  have hthird : (w % 16 * 16 + x / 4) % 16 * 4 + (x % 4 * 64 + y) / 64 = x := by omega
  have hfourth : (x % 4 * 64 + y) % 64 = y := by omega
  rw [three, List.cons_append, List.cons_append, List.cons_append, List.nil_append, encodeChars,
    hbyte₁, hbyte₂, hbyte₃, hfirst, hsecond, hthird, hfourth]

/-- What was read is written as it was read. -/
theorem encodeChars_of_decodeChars? {cs : List Char} (h : decodeChars? cs = some bytes) :
    encodeChars bytes = cs := by
  fun_induction decodeChars? cs generalizing bytes with
  | case1 =>
    obtain rfl := Option.some.inj h
    rfl
  | case2 a b =>
    obtain ⟨v, hvalue₁, h⟩ := Option.bind_eq_some_iff.mp h
    obtain ⟨w, hvalue₂, h⟩ := Option.bind_eq_some_iff.mp h
    obtain ⟨hv, ha⟩ := of_value? hvalue₁
    obtain ⟨hw, hb⟩ := of_value? hvalue₂
    rw [encodeChars_of_lastOne hv hw h, ha, hb]
  | case3 a b c hpad =>
    obtain ⟨v, hvalue₁, h⟩ := Option.bind_eq_some_iff.mp h
    obtain ⟨w, hvalue₂, h⟩ := Option.bind_eq_some_iff.mp h
    obtain ⟨x, hvalue₃, h⟩ := Option.bind_eq_some_iff.mp h
    obtain ⟨hv, ha⟩ := of_value? hvalue₁
    obtain ⟨hw, hb⟩ := of_value? hvalue₂
    obtain ⟨hx, hc⟩ := of_value? hvalue₃
    rw [encodeChars_of_lastTwo hv hw hx h, ha, hb, hc]
  | case4 a b c d rest _ _ ih =>
    obtain ⟨v, hvalue₁, h⟩ := Option.bind_eq_some_iff.mp h
    obtain ⟨w, hvalue₂, h⟩ := Option.bind_eq_some_iff.mp h
    obtain ⟨x, hvalue₃, h⟩ := Option.bind_eq_some_iff.mp h
    obtain ⟨y, hvalue₄, h⟩ := Option.bind_eq_some_iff.mp h
    obtain ⟨later, hlater, h⟩ := Option.bind_eq_some_iff.mp h
    obtain rfl := Option.some.inj h
    obtain ⟨hv, ha⟩ := of_value? hvalue₁
    obtain ⟨hw, hb⟩ := of_value? hvalue₂
    obtain ⟨hx, hc⟩ := of_value? hvalue₃
    obtain ⟨hy, hd⟩ := of_value? hvalue₄
    rw [encodeChars_three_append hv hw hx hy, ih hlater, ha, hb, hc, hd]
  | case5 => cases h

/-- A byte string is read from its written form alone. -/
theorem decode?_eq_some_iff {s : String} : decode? s = some bytes ↔ s = encode bytes := by
  constructor
  · intro h
    rw [encode, encodeChars_of_decodeChars? h, String.ofList_toList]
  · intro h
    rw [h, decode?, encode, String.toList_ofList, decodeChars?_encodeChars]

end Base64

/-- A text is read from its bytes alone. -/
theorem Utf8.decode?_eq_some_iff {bytes : Bytes} {s : String} :
    decode? bytes = some s ↔ bytes = encode s := by
  constructor
  · intro h
    exact (encode_of_decode? h).symm
  · intro h
    rw [h, decode?_encode]

end ToolGateway.Text
