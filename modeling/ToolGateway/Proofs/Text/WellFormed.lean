import ToolGateway.Proofs.Text.Written

/-!
# Well-formed byte strings

A byte string without broken parts is made of the bytes of the characters that are read in it. So it
is the UTF-8 form of its text, and no two byte strings have the same text.
-/

namespace ToolGateway.Text.Utf8

/-- A number that may be that of a character is. -/
theorem toNat_ofNat_of_isValidChar {n : Nat} (h : n.isValidChar) : (Char.ofNat n).toNat = n := by
  rw [Char.ofNat, dif_pos h]
  rfl

/-! ## Characters by the number of their bytes -/

theorem utf8EncodeChar_one {b : UInt8} (hb : b.toNat < 0x80) :
    String.utf8EncodeChar (Char.ofNat b.toNat) = [b] := by
  have hnumber : (Char.ofNat b.toNat).val.toNat = b.toNat :=
    toNat_ofNat_of_isValidChar (Or.inl (by omega))
  unfold String.utf8EncodeChar
  rw [hnumber]
  dsimp only
  rw [if_pos (by omega), UInt8.ofNat_toNat]

theorem utf8EncodeChar_two {b b₁ : UInt8} (hmin : 0xC2 ≤ b.toNat) (hmax : b.toNat < 0xE0)
    (hmin₁ : 0x80 ≤ b₁.toNat) (hmax₁ : b₁.toNat ≤ 0xBF) :
    String.utf8EncodeChar (Char.ofNat ((b.toNat - 0xC0) * 64 + (b₁.toNat - 0x80))) = [b, b₁] := by
  generalize hn : (b.toNat - 0xC0) * 64 + (b₁.toNat - 0x80) = n
  have hnumber : (Char.ofNat n).val.toNat = n := toNat_ofNat_of_isValidChar (Or.inl (by omega))
  unfold String.utf8EncodeChar
  rw [hnumber]
  dsimp only
  rw [if_neg (by omega), if_pos (by omega), Base64.ofNat_eq (b := b) (by omega),
    Base64.ofNat_eq (b := b₁) (by omega)]

theorem utf8EncodeChar_three {b b₁ b₂ : UInt8} (hmin : 0xE0 ≤ b.toNat) (hmax : b.toNat < 0xF0)
    (hmin₁ : (if b.toNat = 0xE0 then 0xA0 else 0x80) ≤ b₁.toNat)
    (hmax₁ : b₁.toNat ≤ if b.toNat = 0xED then 0x9F else 0xBF)
    (hmin₂ : 0x80 ≤ b₂.toNat) (hmax₂ : b₂.toNat ≤ 0xBF) :
    String.utf8EncodeChar (Char.ofNat
      (((b.toNat - 0xE0) * 64 + (b₁.toNat - 0x80)) * 64 + (b₂.toNat - 0x80))) = [b, b₁, b₂] := by
  -- Overlong forms and surrogates are kept out by the range of the second byte.
  have hlong : 0x80 ≤ b₁.toNat ∧ (b.toNat = 0xE0 → 0xA0 ≤ b₁.toNat) := by
    split at hmin₁ <;> omega
  have hsurrogate : b₁.toNat ≤ 0xBF ∧ (b.toNat = 0xED → b₁.toNat ≤ 0x9F) := by
    split at hmax₁ <;> omega
  clear hmin₁ hmax₁
  generalize hn : ((b.toNat - 0xE0) * 64 + (b₁.toNat - 0x80)) * 64 + (b₂.toNat - 0x80) = n
  have hvalid : n < 0xD800 ∨ 0xDFFF < n ∧ n < 0x110000 := by omega
  have hnumber : (Char.ofNat n).val.toNat = n := toNat_ofNat_of_isValidChar hvalid
  unfold String.utf8EncodeChar
  rw [hnumber]
  dsimp only
  rw [if_neg (by omega), if_neg (by omega), if_pos (by omega), Base64.ofNat_eq (b := b) (by omega),
    Base64.ofNat_eq (b := b₁) (by omega), Base64.ofNat_eq (b := b₂) (by omega)]

theorem utf8EncodeChar_four {b b₁ b₂ b₃ : UInt8} (hmin : 0xF0 ≤ b.toNat) (hmax : b.toNat < 0xF5)
    (hmin₁ : (if b.toNat = 0xF0 then 0x90 else 0x80) ≤ b₁.toNat)
    (hmax₁ : b₁.toNat ≤ if b.toNat = 0xF4 then 0x8F else 0xBF)
    (hmin₂ : 0x80 ≤ b₂.toNat) (hmax₂ : b₂.toNat ≤ 0xBF)
    (hmin₃ : 0x80 ≤ b₃.toNat) (hmax₃ : b₃.toNat ≤ 0xBF) :
    String.utf8EncodeChar (Char.ofNat
      ((((b.toNat - 0xF0) * 64 + (b₁.toNat - 0x80)) * 64 + (b₂.toNat - 0x80)) * 64 +
        (b₃.toNat - 0x80))) = [b, b₁, b₂, b₃] := by
  -- Overlong forms and numbers beyond the last character are kept out by the second byte.
  have hlong : 0x80 ≤ b₁.toNat ∧ (b.toNat = 0xF0 → 0x90 ≤ b₁.toNat) := by
    split at hmin₁ <;> omega
  have hlast : b₁.toNat ≤ 0xBF ∧ (b.toNat = 0xF4 → b₁.toNat ≤ 0x8F) := by
    split at hmax₁ <;> omega
  clear hmin₁ hmax₁
  generalize hn : (((b.toNat - 0xF0) * 64 + (b₁.toNat - 0x80)) * 64 + (b₂.toNat - 0x80)) * 64 +
    (b₃.toNat - 0x80) = n
  have hvalid : n < 0xD800 ∨ 0xDFFF < n ∧ n < 0x110000 := by omega
  have hnumber : (Char.ofNat n).val.toNat = n := toNat_ofNat_of_isValidChar hvalid
  unfold String.utf8EncodeChar
  rw [hnumber]
  dsimp only
  rw [if_neg (by omega), if_neg (by omega), if_neg (by omega), Base64.ofNat_eq (b := b) (by omega),
    Base64.ofNat_eq (b := b₁) (by omega), Base64.ofNat_eq (b := b₂) (by omega),
    Base64.ofNat_eq (b := b₃) (by omega)]

/-! ## Reading -/

/-- What a first byte announces lies in its number. -/
theorem of_lead? {b : UInt8} {lead : Lead} (h : lead? b = some lead) :
    (b.toNat < 0x80 ∧ lead = ⟨b.toNat, 0x80, 0xBF, 0⟩) ∨
      (0xC2 ≤ b.toNat ∧ b.toNat < 0xE0 ∧ lead = ⟨b.toNat - 0xC0, 0x80, 0xBF, 1⟩) ∨
      (0xE0 ≤ b.toNat ∧ b.toNat < 0xF0 ∧ lead = ⟨b.toNat - 0xE0,
        if b.toNat = 0xE0 then 0xA0 else 0x80, if b.toNat = 0xED then 0x9F else 0xBF, 2⟩) ∨
      (0xF0 ≤ b.toNat ∧ b.toNat < 0xF5 ∧ lead = ⟨b.toNat - 0xF0,
        if b.toNat = 0xF0 then 0x90 else 0x80, if b.toNat = 0xF4 then 0x8F else 0xBF, 3⟩) := by
  obtain ⟨hone, htwo, hthree, hfour⟩ := lead?_ofNat b.toNat b.toNat_lt
  rw [UInt8.ofNat_toNat, h] at hone htwo hthree hfour
  simp only [Option.some.injEq] at hone htwo hthree hfour
  have hnone : ∀ n < 256, ¬ (n < 0x80 ∨ 0xC2 ≤ n ∧ n < 0xF5) → lead? (UInt8.ofNat n) = none := by
    decide +kernel
  by_cases hleads : b.toNat < 0x80 ∨ 0xC2 ≤ b.toNat ∧ b.toNat < 0xF5
  · rcases Nat.lt_or_ge b.toNat 0x80 with hlt | hge
    · exact Or.inl ⟨hlt, hone hlt⟩
    · rcases Nat.lt_or_ge b.toNat 0xE0 with hlt | hge
      · exact Or.inr (Or.inl ⟨by omega, hlt, htwo (by omega) hlt⟩)
      · rcases Nat.lt_or_ge b.toNat 0xF0 with hlt | hge
        · exact Or.inr (Or.inr (Or.inl ⟨hge, hlt, hthree hge hlt⟩))
        · exact Or.inr (Or.inr (Or.inr ⟨hge, by omega, hfour hge (by omega)⟩))
  · have hb := hnone b.toNat b.toNat_lt hleads
    rw [UInt8.ofNat_toNat, h] at hb
    cases hb

/-- Where no byte follows, the number is complete. -/
theorem of_follow_zero {bits low high n : Nat} {rest later : Bytes}
    (h : follow bits low high 0 rest = (some n, later)) : bits = n ∧ rest = later := by
  rw [follow] at h
  exact ⟨Option.some.inj (Prod.mk.inj h).1, (Prod.mk.inj h).2⟩

/-- A byte that follows is in range and holds six bits. -/
theorem of_follow {bits low high more n : Nat} {bytes later : Bytes}
    (h : follow bits low high (more + 1) bytes = (some n, later)) :
    ∃ b rest, bytes = b :: rest ∧ low ≤ b.toNat ∧ b.toNat ≤ high ∧
      follow (bits * 64 + (b.toNat - 0x80)) 0x80 0xBF more rest = (some n, later) := by
  cases bytes with
  | nil => cases h
  | cons b rest =>
    rw [follow] at h
    split at h
    · next hrange => exact ⟨b, rest, rfl, hrange.1, hrange.2, h⟩
    · cases h

/-- A character stands in front with its bytes. -/
theorem utf8EncodeChar_of_next {b : UInt8} {rest later : Bytes} {c : Char}
    (h : next b rest = (some c, later)) : String.utf8EncodeChar c ++ later = b :: rest := by
  unfold next at h
  cases hlead : lead? b with
  | none => simp [hlead] at h
  | some lead =>
    rw [hlead] at h
    dsimp only at h
    rcases hfollow : follow lead.bits lead.low lead.high lead.more rest with ⟨number, left⟩
    rw [hfollow] at h
    obtain ⟨hnumber, rfl⟩ := Prod.mk.inj h
    obtain ⟨n, rfl, rfl⟩ := Option.map_eq_some_iff.mp hnumber
    rcases of_lead? hlead with
      ⟨hb, rfl⟩ | ⟨hmin, hmax, rfl⟩ | ⟨hmin, hmax, rfl⟩ | ⟨hmin, hmax, rfl⟩
    · obtain ⟨rfl, rfl⟩ := of_follow_zero hfollow
      rw [utf8EncodeChar_one hb, List.singleton_append]
    · obtain ⟨b₁, rest, rfl, hmin₁, hmax₁, hfollow⟩ := of_follow hfollow
      obtain ⟨rfl, rfl⟩ := of_follow_zero hfollow
      dsimp only
      rw [utf8EncodeChar_two hmin hmax hmin₁ hmax₁]
      rfl
    · obtain ⟨b₁, rest, rfl, hmin₁, hmax₁, hfollow⟩ := of_follow hfollow
      obtain ⟨b₂, rest, rfl, hmin₂, hmax₂, hfollow⟩ := of_follow hfollow
      obtain ⟨rfl, rfl⟩ := of_follow_zero hfollow
      dsimp only
      rw [utf8EncodeChar_three hmin hmax hmin₁ hmax₁ hmin₂ hmax₂]
      rfl
    · obtain ⟨b₁, rest, rfl, hmin₁, hmax₁, hfollow⟩ := of_follow hfollow
      obtain ⟨b₂, rest, rfl, hmin₂, hmax₂, hfollow⟩ := of_follow hfollow
      obtain ⟨b₃, rest, rfl, hmin₃, hmax₃, hfollow⟩ := of_follow hfollow
      obtain ⟨rfl, rfl⟩ := of_follow_zero hfollow
      dsimp only
      rw [utf8EncodeChar_four hmin hmax hmin₁ hmax₁ hmin₂ hmax₂ hmin₃ hmax₃]
      rfl

/-- What was cut before stays in front. -/
theorem cut_eq (done : List (Option Char)) (bytes : Bytes) :
    cut done bytes = done.reverse ++ pieces bytes := by
  match bytes with
  | [] => simp [pieces, cut]
  | b :: rest =>
    rw [pieces, cut, cut, cut_eq, cut_eq [(next b rest).1]]
    simp
termination_by bytes.length
decreasing_by
  all_goals
    have hshorter := length_next_le b rest
    simp only [List.length_cons]
    omega

/-- A byte string is cut at its front. -/
theorem pieces_cons (b : UInt8) (rest : Bytes) :
    pieces (b :: rest) = (next b rest).1 :: pieces (next b rest).2 := by
  rw [pieces, cut, cut_eq]
  rfl

/-- Where a byte string is cut into characters alone, it is made of their bytes. -/
theorem encodeChars_of_pieces {bytes : Bytes} {cs : List Char} (h : pieces bytes = cs.map some) :
    encodeChars cs = bytes := by
  match bytes, cs with
  | [], [] => rfl
  | [], c :: cs => simp [pieces, cut] at h
  | b :: rest, [] => simp [pieces_cons] at h
  | b :: rest, c :: cs =>
    rw [pieces_cons, List.map_cons] at h
    obtain ⟨hfirst, hrest⟩ := List.cons.inj h
    have hnext : next b rest = (some c, (next b rest).2) := Prod.ext hfirst rfl
    calc encodeChars (c :: cs)
        = String.utf8EncodeChar c ++ encodeChars cs := List.flatMap_cons
      _ = String.utf8EncodeChar c ++ (next b rest).2 := by rw [encodeChars_of_pieces hrest]
      _ = b :: rest := utf8EncodeChar_of_next hnext
termination_by bytes.length
decreasing_by
  have hshorter := length_next_le b rest
  simp only [List.length_cons]
  omega

/-- Pieces that are all characters are those characters. -/
theorem eq_map_some_of_mapM {found : List (Option Char)} {cs : List Char}
    (h : found.mapM id = some cs) : found = cs.map some := by
  induction found generalizing cs with
  | nil =>
    obtain rfl : [] = cs := by simpa using h
    rfl
  | cons piece found ih =>
    rw [List.mapM_cons] at h
    obtain ⟨c, rfl, hlater⟩ := Option.bind_eq_some_iff.mp h
    obtain ⟨rest, hrest, hcons⟩ := Option.bind_eq_some_iff.mp hlater
    obtain rfl : c :: rest = cs := Option.some.inj hcons
    rw [ih hrest, List.map_cons]

/-- A well-formed byte string is made of the bytes of its text. -/
theorem encode_of_decode? {bytes : Bytes} {s : String} (h : decode? bytes = some s) :
    encode s = bytes := by
  obtain ⟨cs, hcs, rfl⟩ := Option.map_eq_some_iff.mp h
  rw [encode, String.toList_ofList]
  exact encodeChars_of_pieces (eq_map_some_of_mapM hcs)

end ToolGateway.Text.Utf8
