import ToolGateway.Text.Base64
import ToolGateway.Text.Blank
import ToolGateway.Text.Utf8

/-!
# Written forms are read back

A text is read back from its UTF-8 bytes, and a byte string from its Base64 digits. Base64 has no
blank characters, so trimming leaves it as it is.
-/

namespace ToolGateway.Text

/-- Characters that neither begin nor end with a blank are left as they are. -/
theorem trimChars_eq_self {cs : List Char} (hhead : ∀ c ∈ cs.head?, isBlank c = false)
    (hlast : ∀ c ∈ cs.getLast?, isBlank c = false) : trimChars cs = cs := by
  have hdrop (ds : List Char) (hds : ∀ c ∈ ds.head?, isBlank c = false) :
      ds.dropWhile isBlank = ds := by
    cases ds with
    | nil => rfl
    | cons c ds => rw [List.dropWhile_cons_of_neg (by simp [hds c rfl])]
  have hreverse : cs.reverse.dropWhile isBlank = cs.reverse := by
    apply hdrop
    rwa [List.head?_reverse]
  rw [trimChars, dropEnd, hdrop cs hhead, hreverse, List.reverse_reverse]

/-- A text without blank characters is left as it is. -/
theorem trim_eq_self {s : String} (h : ∀ c ∈ s.toList, isBlank c = false) : trim s = s := by
  rw [trim, trimChars_eq_self (fun c hc => h c (List.mem_of_mem_head? hc))
    fun c hc => h c (List.mem_of_mem_getLast? hc), String.ofList_toList]

namespace Base64

/-- A digit stands for its value. -/
theorem value?_digit {n : Nat} (h : n < 64) : value? (digit n) = some n :=
  (by decide : ∀ n < 64, value? (digit n) = some n) n h

/-- A digit is no padding. -/
theorem digit_ne_pad {n : Nat} (h : n < 64) : digit n ≠ '=' :=
  (by decide : ∀ n < 64, digit n ≠ '=') n h

/-- A byte string is written in digits and padding alone. -/
theorem of_mem_encodeChars {P : Char → Prop} (hdigit : ∀ n < 64, P (digit n)) (hpad : P '=')
    {bytes : Bytes} {c : Char} (h : c ∈ encodeChars bytes) : P c := by
  fun_induction encodeChars bytes with
  | case1 => cases h
  | case2 a =>
    have ha := a.toNat_lt
    simp only [List.mem_cons, List.not_mem_nil, or_false] at h
    rcases h with rfl | rfl | rfl | rfl
    · exact hdigit _ (by omega)
    · exact hdigit _ (by omega)
    · exact hpad
    · exact hpad
  | case3 a b =>
    have ha := a.toNat_lt
    have hb := b.toNat_lt
    simp only [List.mem_cons, List.not_mem_nil, or_false] at h
    rcases h with rfl | rfl | rfl | rfl
    · exact hdigit _ (by omega)
    · exact hdigit _ (by omega)
    · exact hdigit _ (by omega)
    · exact hpad
  | case4 a b c rest ih =>
    have ha := a.toNat_lt
    have hb := b.toNat_lt
    have hc := c.toNat_lt
    simp only [List.mem_cons] at h
    rcases h with rfl | rfl | rfl | rfl | h
    · exact hdigit _ (by omega)
    · exact hdigit _ (by omega)
    · exact hdigit _ (by omega)
    · exact hdigit _ (by omega)
    · exact ih h

/-- Neither digits nor padding are blank. -/
theorem isBlank_of_mem_encodeChars {bytes : Bytes} {c : Char} (h : c ∈ encodeChars bytes) :
    isBlank c = false :=
  of_mem_encodeChars (P := (isBlank · = false)) (by decide) (by decide) h

/-- A byte is what its number says. -/
theorem ofNat_eq {n : Nat} {b : UInt8} (h : n = b.toNat) : UInt8.ofNat n = b := by
  rw [h, UInt8.ofNat_toNat]

/-- A byte string is read back from its digits. -/
theorem decodeChars?_encodeChars (bytes : Bytes) :
    decodeChars? (encodeChars bytes) = some bytes := by
  fun_induction encodeChars bytes with
  | case1 => rfl
  | case2 a =>
    have ha := a.toNat_lt
    rw [decodeChars?.eq_2, value?_digit (by omega), value?_digit (by omega)]
    dsimp only [Option.bind_eq_bind, Option.bind_some]
    rw [lastOne, if_pos (by omega), ofNat_eq (b := a) (by omega)]
  | case3 a b =>
    have ha := a.toNat_lt
    have hb := b.toNat_lt
    rw [decodeChars?.eq_3 _ _ _ (digit_ne_pad (by omega)), value?_digit (by omega),
      value?_digit (by omega), value?_digit (by omega)]
    dsimp only [Option.bind_eq_bind, Option.bind_some]
    rw [lastTwo, if_pos (by omega), ofNat_eq (b := a) (by omega), ofNat_eq (b := b) (by omega)]
  | case4 a b c rest ih =>
    have ha := a.toNat_lt
    have hb := b.toNat_lt
    have hc := c.toNat_lt
    have hpad : digit (c.toNat % 64) ≠ '=' := digit_ne_pad (by omega)
    rw [decodeChars?.eq_4 _ _ _ _ _ (fun _ h _ => hpad h) (fun h _ => hpad h),
      value?_digit (by omega), value?_digit (by omega), value?_digit (by omega),
      value?_digit (by omega), ih]
    dsimp only [Option.bind_eq_bind, Option.bind_some, Option.pure_def]
    rw [three, ofNat_eq (b := a) (by omega), ofNat_eq (b := b) (by omega),
      ofNat_eq (b := c) (by omega)]
    rfl

/-- Blanks around a written byte string do not matter. -/
theorem decode?_trim_encode (bytes : Bytes) : decode? (trim (encode bytes)) = some bytes := by
  have hchars : (encode bytes).toList = encodeChars bytes := String.toList_ofList
  rw [trim_eq_self fun c hc => isBlank_of_mem_encodeChars (hchars ▸ hc), decode?, hchars,
    decodeChars?_encodeChars]

end Base64

namespace Utf8

/-- A byte that is in range is taken in. -/
theorem follow_cons {n low high : Nat} (hn : n < 256) (hlow : low ≤ n) (hhigh : n ≤ high)
    (bits more : Nat) (rest : Bytes) :
    follow bits low high (more + 1) (UInt8.ofNat n :: rest) =
      follow (bits * 64 + (n - 0x80)) 0x80 0xBF more rest := by
  have hbyte : (UInt8.ofNat n).toNat = n := UInt8.toNat_ofNat_of_lt hn
  rw [follow, hbyte, if_pos ⟨hlow, hhigh⟩]

/-- A first byte and the bytes that follow it are read as their character. -/
theorem next_of_lead {b : UInt8} {bits low high more : Nat} {rest rest' : Bytes} {c : Char}
    (hlead : lead? b = some ⟨bits, low, high, more⟩)
    (hfollow : follow bits low high more rest = (some c.toNat, rest')) :
    next b rest = (some c, rest') := by
  rw [next, hlead]
  dsimp only
  rw [hfollow]
  dsimp only
  rw [Option.map_some, Char.ofNat_toNat]

/-- What the first byte of a character announces, by the number of the bytes that follow it. -/
theorem lead?_ofNat : ∀ n < 256,
    (n < 0x80 → lead? (UInt8.ofNat n) = some ⟨n, 0x80, 0xBF, 0⟩) ∧
    (0xC2 ≤ n → n < 0xE0 → lead? (UInt8.ofNat n) = some ⟨n - 0xC0, 0x80, 0xBF, 1⟩) ∧
    (0xE0 ≤ n → n < 0xF0 → lead? (UInt8.ofNat n) = some ⟨n - 0xE0,
      if n = 0xE0 then 0xA0 else 0x80, if n = 0xED then 0x9F else 0xBF, 2⟩) ∧
    (0xF0 ≤ n → n < 0xF5 → lead? (UInt8.ofNat n) = some ⟨n - 0xF0,
      if n = 0xF0 then 0x90 else 0x80, if n = 0xF4 then 0x8F else 0xBF, 3⟩) := by
  decide +kernel

/-- A character is read back from its bytes, whatever follows them. -/
theorem next_utf8EncodeChar (c : Char) (rest : Bytes) :
    ∃ b more, String.utf8EncodeChar c = b :: more ∧ next b (more ++ rest) = (some c, rest) := by
  have hvalid : c.toNat < 0xD800 ∨ 0xDFFF < c.toNat ∧ c.toNat < 0x110000 := c.valid
  have hunfold : c.val.toNat = c.toNat := rfl
  unfold String.utf8EncodeChar
  rw [hunfold]
  generalize hv : c.toNat = v at hvalid
  dsimp only
  split
  · refine ⟨_, _, rfl, next_of_lead ((lead?_ofNat _ (by omega)).1 (by omega)) ?_⟩
    rw [follow, hv]
    rfl
  · split
    · refine ⟨_, _, rfl, next_of_lead ((lead?_ofNat _ (by omega)).2.1 (by omega) (by omega)) ?_⟩
      rw [List.cons_append, follow_cons (by omega) (by omega) (by omega), follow, hv]
      exact Prod.ext (congrArg some (by omega)) rfl
    · split
      · refine ⟨_, _, rfl, next_of_lead ((lead?_ofNat _ (by omega)).2.2.1 (by omega) (by omega)) ?_⟩
        rw [List.cons_append, List.cons_append, follow_cons (by omega) (by split <;> omega)
          (by split <;> omega), follow_cons (by omega) (by omega) (by omega), follow, hv]
        exact Prod.ext (congrArg some (by omega)) rfl
      · refine ⟨_, _, rfl, next_of_lead ((lead?_ofNat _ (by omega)).2.2.2 (by omega) (by omega)) ?_⟩
        rw [List.cons_append, List.cons_append, List.cons_append,
          follow_cons (by omega) (by split <;> omega) (by split <;> omega),
          follow_cons (by omega) (by omega) (by omega),
          follow_cons (by omega) (by omega) (by omega), follow, hv]
        exact Prod.ext (congrArg some (by omega)) rfl

/-- Characters are cut out of their bytes one after the other. -/
theorem cut_encodeChars (done : List (Option Char)) (cs : List Char) :
    cut done (encodeChars cs) = done.reverse ++ cs.map some := by
  induction cs generalizing done with
  | nil => simp [encodeChars, cut]
  | cons c cs ih =>
    obtain ⟨b, more, hbytes, hnext⟩ := next_utf8EncodeChar c (encodeChars cs)
    have hcons : encodeChars (c :: cs) = b :: (more ++ encodeChars cs) := by
      rw [encodeChars, List.flatMap_cons, hbytes, ← encodeChars, List.cons_append]
    rw [hcons, cut, hnext, ih]
    simp

/-- A text is read back from its bytes. -/
theorem decode?_encode (s : String) : decode? (encode s) = some s := by
  have hall (cs : List Char) : (cs.map some).mapM id = some cs := by
    induction cs with
    | nil => rfl
    | cons c cs ih =>
      rw [List.map_cons, List.mapM_cons, ih]
      rfl
  rw [decode?, decodeChars?, pieces, encode, cut_encodeChars, List.reverse_nil, List.nil_append,
    hall, Option.map_some, String.ofList_toList]

end Utf8

end ToolGateway.Text
