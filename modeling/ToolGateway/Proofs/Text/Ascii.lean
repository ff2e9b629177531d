import ToolGateway.Proofs.Text.Percent

/-!
# ASCII within UTF-8

An ASCII byte within UTF-8 is a character of its own, so a text may be cut there: what stands
before and behind the byte is UTF-8 again.
-/

namespace ToolGateway.Text.Utf8

/-- The characters of ASCII bytes. -/
def charsOfBytes (bytes : Bytes) : List Char := bytes.map fun b => Char.ofNat b.toNat

/-- A character has one byte, which is its code, or only bytes beyond ASCII. -/
theorem utf8EncodeChar_cases (c : Char) :
    (∃ b : UInt8, c = Char.ofNat b.toNat ∧ String.utf8EncodeChar c = [b]) ∨
      ∀ b ∈ String.utf8EncodeChar c, 0x80 ≤ b := by
  have hvalid : c.toNat < 0xD800 ∨ 0xDFFF < c.toNat ∧ c.toNat < 0x110000 := c.valid
  have hbyte (n : Nat) (hlow : 0x80 ≤ n) (hhigh : n < 0x100) : (0x80 : UInt8) ≤ UInt8.ofNat n := by
    change 0x80 ≤ (UInt8.ofNat n).toNat
    rwa [UInt8.toNat_ofNat_of_lt' hhigh]
  by_cases hascii : c.toNat < 0x80
  · refine Or.inl ⟨UInt8.ofNat c.toNat, ?_, ?_⟩
    · rw [toNat_code hascii, Char.ofNat_toNat]
    · have hone : encodeChars [c] = [UInt8.ofNat c.toNat] :=
        encodeChars_of_ascii (by simpa using hascii)
      rwa [encodeChars, List.flatMap_singleton] at hone
  · refine Or.inr fun b hb => ?_
    have hunfold : c.val.toNat = c.toNat := rfl
    unfold String.utf8EncodeChar at hb
    rw [hunfold] at hb
    generalize c.toNat = v at hb hvalid hascii
    dsimp only at hb
    rw [if_neg (by omega)] at hb
    -- One case for each number of bytes.
    split at hb
    · simp only [List.mem_cons, List.not_mem_nil, or_false] at hb
      rcases hb with rfl | rfl
      · exact hbyte _ (by omega) (by omega)
      · exact hbyte _ (by omega) (by omega)
    · split at hb
      · simp only [List.mem_cons, List.not_mem_nil, or_false] at hb
        rcases hb with rfl | rfl | rfl
        · exact hbyte _ (by omega) (by omega)
        · exact hbyte _ (by omega) (by omega)
        · exact hbyte _ (by omega) (by omega)
      · simp only [List.mem_cons, List.not_mem_nil, or_false] at hb
        rcases hb with rfl | rfl | rfl | rfl
        · exact hbyte _ (by omega) (by omega)
        · exact hbyte _ (by omega) (by omega)
        · exact hbyte _ (by omega) (by omega)
        · exact hbyte _ (by omega) (by omega)

/-- A character that has an ASCII byte has no other. -/
theorem utf8EncodeChar_of_ascii {c : Char} {b : UInt8} (hmem : b ∈ String.utf8EncodeChar c)
    (hascii : b < 0x80) : c = Char.ofNat b.toNat ∧ String.utf8EncodeChar c = [b] := by
  rcases utf8EncodeChar_cases c with ⟨b', hc, hone⟩ | hbeyond
  · rw [hone, List.mem_singleton] at hmem
    exact hmem ▸ ⟨hc, hone⟩
  · exact absurd (hbeyond b hmem) (UInt8.not_le.mpr hascii)

/-- The character of an ASCII byte of a text is one of the text. -/
theorem mem_of_mem_encodeChars {cs : List Char} {b : UInt8} (h : b ∈ encodeChars cs)
    (hascii : b < 0x80) : Char.ofNat b.toNat ∈ cs := by
  obtain ⟨c, hc, hb⟩ := List.mem_flatMap.mp h
  exact (utf8EncodeChar_of_ascii hb hascii).1 ▸ hc

/-- Only the empty text has no bytes. -/
theorem eq_nil_of_encodeChars_eq_nil {cs : List Char} (h : encodeChars cs = []) : cs = [] :=
  encodeChars_injective (show encodeChars cs = encodeChars [] from h)

/-- A text is cut at an ASCII byte. -/
theorem exists_of_encodeChars_eq_append_cons {cs : List Char} {before behind : Bytes} {b : UInt8}
    (hb : b < 0x80) (h : encodeChars cs = before ++ b :: behind) :
    ∃ front rest, cs = front ++ Char.ofNat b.toNat :: rest ∧ encodeChars front = before ∧
      encodeChars rest = behind := by
  induction cs generalizing before with
  | nil => simp [encodeChars] at h
  | cons c cs ih =>
    rw [encodeChars, List.flatMap_cons, ← encodeChars] at h
    have hlater {more : Bytes} (hmore : encodeChars cs = more ++ b :: behind) :
        ∃ front rest, c :: cs = front ++ Char.ofNat b.toNat :: rest ∧
          encodeChars front = String.utf8EncodeChar c ++ more ∧ encodeChars rest = behind := by
      obtain ⟨front, rest, rfl, rfl, hrest⟩ := ih hmore
      exact ⟨c :: front, rest, rfl, rfl, hrest⟩
    rcases List.append_eq_append_iff.mp h with ⟨more, rfl, hmore⟩ | ⟨own, hown, hrest⟩
    · exact hlater hmore
    · cases own with
      | nil =>
        rw [List.append_nil] at hown
        have hmore : encodeChars cs = [] ++ b :: behind := hrest.symm
        simpa only [List.append_nil, hown] using hlater hmore
      | cons b' own =>
        obtain ⟨rfl, hbehind⟩ := List.cons.inj hrest
        have hmem : b ∈ String.utf8EncodeChar c := by simp [hown]
        obtain ⟨hc, hone⟩ := utf8EncodeChar_of_ascii hmem hb
        obtain ⟨rfl, rfl⟩ : before = [] ∧ own = [] := by
          have hlength := congrArg List.length (hone.symm.trans hown)
          simp only [List.length_append, List.length_cons, List.length_nil] at hlength
          exact ⟨List.eq_nil_of_length_eq_zero (by omega), List.eq_nil_of_length_eq_zero (by omega)⟩
        exact ⟨[], cs, by rw [← hc, List.nil_append], rfl, hbehind.symm⟩

/-- ASCII bytes in front are characters in front. -/
theorem exists_of_encodeChars_eq_append {cs : List Char} {left rest : Bytes}
    (hleft : ∀ b ∈ left, b < 0x80) (h : encodeChars cs = left ++ rest) :
    ∃ more, cs = charsOfBytes left ++ more ∧ encodeChars more = rest := by
  induction left generalizing cs with
  | nil => exact ⟨cs, rfl, h⟩
  | cons b left ih =>
    obtain ⟨hb, hmoreLeft⟩ := List.forall_mem_cons.mp hleft
    have hcut : encodeChars cs = [] ++ b :: (left ++ rest) := h
    obtain ⟨front, behind, rfl, hfront, hbehind⟩ := exists_of_encodeChars_eq_append_cons hb hcut
    obtain rfl := eq_nil_of_encodeChars_eq_nil hfront
    obtain ⟨more, rfl, hmore⟩ := ih hmoreLeft hbehind
    exact ⟨more, rfl, hmore⟩

/-- ASCII bytes at the end are characters at the end. -/
theorem exists_of_encodeChars_eq_append_right {cs : List Char} {rest right : Bytes}
    (hright : ∀ b ∈ right, b < 0x80) (h : encodeChars cs = rest ++ right) :
    ∃ more, cs = more ++ charsOfBytes right ∧ encodeChars more = rest := by
  induction right generalizing rest with
  | nil => exact ⟨cs, (List.append_nil cs).symm, h.trans (List.append_nil rest)⟩
  | cons b right ih =>
    obtain ⟨hb, hmoreRight⟩ := List.forall_mem_cons.mp hright
    have hmore : encodeChars cs = (rest ++ [b]) ++ right := by simpa using h
    obtain ⟨longer, rfl, hlonger⟩ := ih hmoreRight hmore
    obtain ⟨front, behind, rfl, hfront, hbehind⟩ :=
      exists_of_encodeChars_eq_append_cons hb hlonger
    obtain rfl := eq_nil_of_encodeChars_eq_nil hbehind
    exact ⟨front, by simp [charsOfBytes], hfront⟩

end ToolGateway.Text.Utf8
