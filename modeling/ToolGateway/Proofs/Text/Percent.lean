import ToolGateway.Text.Percent
import ToolGateway.Text.Utf8

/-!
# Percent encoding undone

Reading the escapes of a written text gives its bytes back, provided that the percent sign itself
is among the bytes that are escaped. The escaped text is ASCII where all other bytes are escaped,
so its characters and its bytes say the same. UTF-8 tells texts apart, and a text that lost
characters has lost bytes.
-/

namespace ToolGateway.Text

namespace Percent

/-- The digits of an escape stand for its byte. -/
theorem byte?_digitCode (b : UInt8) :
    byte? (digitCode (b.toNat / 16)) (digitCode (b.toNat % 16)) = some b := by
  have hcode : ∀ n < 16, hexCodeValue? (digitCode n).toNat = some n := by decide
  have hlt : b.toNat < 256 := UInt8.toNat_lt b
  have hhigh := hcode (b.toNat / 16) (by omega)
  have hlow := hcode (b.toNat % 16) (by omega)
  have hsum : b.toNat / 16 * 16 + b.toNat % 16 = b.toNat := by omega
  simp only [byte?, hhigh, hlow, Option.bind_eq_bind, Option.bind_some, hsum]
  exact congrArg some (UInt8.ofNat_toNat)

/-- A byte that is no percent sign stands for itself. -/
theorem decodeOnto_cons_of_ne {b : UInt8} (hb : b ≠ sign) (done rest : Bytes) :
    decodeOnto done (b :: rest) = decodeOnto (b :: done) rest := by
  rw [decodeOnto.eq_def]
  simp [hb]

/-- An escape is read as its byte. -/
theorem decodeOnto_escape (b : UInt8) (done rest : Bytes) :
    decodeOnto done (escape b ++ rest) = decodeOnto (b :: done) rest := by
  rw [escape, List.cons_append, List.cons_append, List.cons_append, List.nil_append,
    decodeOnto.eq_def]
  simp [byte?_digitCode]

/-- What was escaped is read back, behind what was read before. -/
theorem decodeOnto_encode {escaped : UInt8 → Bool} (hsign : escaped sign = true) (done : Bytes)
    (bytes : Bytes) : decodeOnto done (encode escaped bytes) = done.reverse ++ bytes := by
  induction bytes generalizing done with
  | nil => simp [encode, decodeOnto]
  | cons b bytes ih =>
    rw [encode, List.flatMap_cons, ← encode]
    by_cases hb : escaped b = true
    · rw [if_pos hb, decodeOnto_escape, ih]
      simp
    · have hne : b ≠ sign := fun h => hb (h ▸ hsign)
      rw [if_neg hb, List.singleton_append, decodeOnto_cons_of_ne hne, ih]
      simp

/-- Where the percent sign is escaped, reading undoes writing. -/
theorem decode_encode {escaped : UInt8 → Bool} (hsign : escaped sign = true) (bytes : Bytes) :
    decode (encode escaped bytes) = bytes := decodeOnto_encode hsign [] bytes

/-- What is written are signs and digits of escapes and the bytes that are not escaped. -/
theorem mem_encode {escaped : UInt8 → Bool} {bytes : Bytes} {b : UInt8}
    (h : b ∈ encode escaped bytes) :
    escaped b = false ∨ b = sign ∨ ∃ n < 16, b = digitCode n := by
  obtain ⟨c, -, hc⟩ := List.mem_flatMap.mp h
  have hlt : c.toNat < 256 := UInt8.toNat_lt c
  by_cases hescaped : escaped c = true
  · rw [if_pos hescaped, escape] at hc
    simp only [List.mem_cons, List.not_mem_nil, or_false] at hc
    rcases hc with rfl | rfl | rfl
    · exact Or.inr (Or.inl rfl)
    · exact Or.inr (Or.inr ⟨_, by omega, rfl⟩)
    · exact Or.inr (Or.inr ⟨_, by omega, rfl⟩)
  · rw [if_neg hescaped, List.mem_singleton] at hc
    exact Or.inl (by simpa [hc] using hescaped)

end Percent

namespace Utf8

/-- The character of a byte has the number of the byte. -/
theorem toNat_ofNat (b : UInt8) : (Char.ofNat b.toNat).toNat = b.toNat := by
  have hlt : b.toNat < 256 := UInt8.toNat_lt b
  have hvalid : b.toNat.isValidChar := Or.inl (by omega)
  rw [Char.ofNat, dif_pos hvalid]
  rfl

/-- ASCII characters are written by their codes. -/
theorem encodeChars_of_ascii {cs : List Char} (h : ∀ c ∈ cs, c.toNat < 0x80) :
    encodeChars cs = cs.map fun c => UInt8.ofNat c.toNat := by
  induction cs with
  | nil => rfl
  | cons c cs ih =>
    have hc : c.val.toNat < 0x80 := h c List.mem_cons_self
    have hone : String.utf8EncodeChar c = [UInt8.ofNat c.toNat] := by
      unfold String.utf8EncodeChar
      dsimp only
      rw [if_pos (by omega)]
      rfl
    rw [encodeChars, List.flatMap_cons, hone, ← encodeChars,
      ih fun c' hc' => h c' (List.mem_cons_of_mem _ hc')]
    rfl

/-- The bytes of ASCII characters are their codes. -/
theorem encodeChars_map_ofNat {bytes : Bytes} (h : ∀ b ∈ bytes, b < 0x80) :
    encodeChars (bytes.map fun b => Char.ofNat b.toNat) = bytes := by
  have hascii : ∀ c ∈ bytes.map fun b => Char.ofNat b.toNat, c.toNat < 0x80 := by
    intro c hc
    obtain ⟨b, hb, rfl⟩ := List.mem_map.mp hc
    rw [toNat_ofNat]
    exact h b hb
  rw [encodeChars_of_ascii hascii, List.map_map]
  calc bytes.map _ = bytes.map id := by
        apply List.map_congr_left
        intro b _
        rw [Function.comp_apply, toNat_ofNat, UInt8.ofNat_toNat, id]
    _ = bytes := List.map_id bytes

/-- The code of an ASCII character fits into a byte. -/
theorem toNat_code {c : Char} (h : c.toNat < 0x80) : (UInt8.ofNat c.toNat).toNat = c.toNat := by
  apply UInt8.toNat_ofNat_of_lt
  simp only [UInt8.size]
  omega

/-- ASCII characters are read back from their bytes. -/
theorem map_ofNat_encodeChars {cs : List Char} (h : ∀ c ∈ cs, c.toNat < 0x80) :
    (encodeChars cs).map (fun b => Char.ofNat b.toNat) = cs := by
  rw [encodeChars_of_ascii h, List.map_map]
  calc cs.map _ = cs.map id := by
        apply List.map_congr_left
        intro c hc
        rw [Function.comp_apply, toNat_code (h c hc), Char.ofNat_toNat, id]
    _ = cs := List.map_id cs

/-- Different texts have different bytes. -/
theorem encodeChars_injective {cs ds : List Char} (h : encodeChars cs = encodeChars ds) :
    cs = ds := by
  apply String.ofList_injective
  rw [← String.toByteArray_inj, String.toByteArray_ofList, String.toByteArray_ofList]
  exact congrArg List.toByteArray h

end Utf8

end ToolGateway.Text
