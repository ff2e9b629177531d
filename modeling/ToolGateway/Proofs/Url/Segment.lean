import ToolGateway.Proofs.Text.Percent
import ToolGateway.Url.Basic

/-!
# Escaped segments

A text that is escaped as one segment is read back without its tabs and line breaks, and holds
nothing at which a path would be cut. A segment that moves within the path is always an escape of
one or two points, however it is written.
-/

namespace ToolGateway.Url

open Text

/-! ## What is not escaped -/

/-- In a segment of the web the percent sign is escaped. -/
theorem escapedInSegment_sign : escapedInSegment .special Percent.sign = true := by decide

/-- What is not escaped in a segment is ASCII and no delimiter. -/
theorem of_escapedInSegment_eq_false {b : UInt8} (h : escapedInSegment .special b = false) :
    b < 0x80 ∧ b ≠ 0x2F ∧ b ≠ 0x5C ∧ b ≠ 0x3F ∧ b ≠ 0x23 := by
  have hne (c : UInt8) (hc : escapedInSegment .special c = true) : b ≠ c := by
    rintro rfl
    rw [h] at hc
    contradiction
  refine ⟨?_, hne _ (by decide), hne _ (by decide), hne _ (by decide), hne _ (by decide)⟩
  simp only [escapedInSegment, escapedInPath, escapedInFragment, escapedInHost,
    Bool.or_eq_false_iff, decide_eq_false_iff_not] at h
  have hlt : b < 0x7F := UInt8.not_le.mp h.1.1.1.1.2
  exact UInt8.lt_trans hlt (by decide)

/-- No byte of an escaped segment is beyond ASCII or a delimiter. -/
theorem of_mem_encode {bytes : Bytes} {b : UInt8}
    (h : b ∈ Percent.encode (escapedInSegment .special) bytes) :
    b < 0x80 ∧ b ≠ 0x2F ∧ b ≠ 0x5C ∧ b ≠ 0x3F ∧ b ≠ 0x23 := by
  rcases Percent.mem_encode h with h | rfl | ⟨n, hn, rfl⟩
  · exact of_escapedInSegment_eq_false h
  · decide
  · have hdigit : ∀ n < 16, Percent.digitCode n < 0x80 ∧ Percent.digitCode n ≠ 0x2F ∧
        Percent.digitCode n ≠ 0x5C ∧ Percent.digitCode n ≠ 0x3F ∧
        Percent.digitCode n ≠ 0x23 := by decide
    exact hdigit n hn

/-! ## Reading back -/

/-- Reading the escapes of a segment gives back the text without what is ignored. -/
theorem decode_escapeText (cs : List Char) :
    Percent.decode (Utf8.encode (escapeText (escapedInSegment .special) cs)) =
      Utf8.encodeChars (withoutIgnored cs) := by
  rw [escapeText, Utf8.encode, String.toList_ofList,
    Utf8.encodeChars_map_ofNat fun b hb => (of_mem_encode hb).1]
  exact Percent.decode_encode escapedInSegment_sign _

/-- An escaped segment holds no character that ends a segment or a path. -/
theorem of_mem_escapeText {cs : List Char} {c : Char}
    (h : c ∈ (escapeText (escapedInSegment .special) cs).toList) :
    c ≠ '/' ∧ c ≠ '\\' ∧ c ≠ '?' ∧ c ≠ '#' := by
  rw [escapeText, String.toList_ofList, List.mem_map] at h
  obtain ⟨b, hb, rfl⟩ := h
  obtain ⟨-, hdelimiters⟩ := of_mem_encode hb
  have hne (d : UInt8) (hd : b ≠ d) : Char.ofNat b.toNat ≠ Char.ofNat d.toNat := by
    intro hchar
    have hnat := congrArg Char.toNat hchar
    rw [Utf8.toNat_ofNat, Utf8.toNat_ofNat] at hnat
    exact hd (UInt8.toNat_inj.mp hnat)
  exact ⟨hne 0x2F hdelimiters.1, hne 0x5C hdelimiters.2.1, hne 0x3F hdelimiters.2.2.1,
    hne 0x23 hdelimiters.2.2.2⟩

/-! ## Segments that move -/

/-- A character is the small letter of another only if it is that one or its capital. -/
theorem eq_or_of_toLower_eq {c d : Char} (h : c.toLower = d) :
    c = d ∨ c.toNat + 32 = d.toNat ∧ 65 ≤ c.toNat := by
  unfold Char.toLower at h
  split at h
  · next hupper =>
    right
    have hlow : 65 ≤ c.val.toNat := hupper.1
    have hhigh : c.val.toNat ≤ 90 := hupper.2
    have hsum : (c.val + ('a'.val - 'A'.val)).toNat = c.val.toNat + 32 := by
      rw [UInt32.toNat_add]
      exact Nat.mod_eq_of_lt (Nat.lt_of_le_of_lt (Nat.add_le_add_right hhigh 32) (by decide))
    exact ⟨hsum.symm.trans (congrArg Char.toNat h), hlow⟩
  · exact Or.inl h

/-- A character is no capital where it becomes one that is no small letter. -/
theorem eq_of_toLower_eq {c d : Char} (h : c.toLower = d) (hd : d.toNat < 97) : c = d := by
  rcases eq_or_of_toLower_eq h with h | ⟨hsum, hlow⟩
  · exact h
  · omega

/-- A point at the front is read as a point. -/
theorem decodeOnto_point {cs rest : List Char} (h : cs.map Char.toLower = '.' :: rest) :
    ∃ cs', cs'.map Char.toLower = rest ∧ ∀ done,
      Percent.decodeOnto done (Utf8.encodeChars cs) =
        Percent.decodeOnto (0x2E :: done) (Utf8.encodeChars cs') := by
  obtain ⟨c, cs', rfl, hc, hrest⟩ := List.map_eq_cons_iff.mp h
  obtain rfl := eq_of_toLower_eq hc (by decide)
  refine ⟨cs', hrest, fun done => ?_⟩
  exact Percent.decodeOnto_cons_of_ne (by decide) done _

/-- The escape of a point at the front is read as a point, in capitals or small letters. -/
theorem decodeOnto_escapedPoint {cs rest : List Char}
    (h : cs.map Char.toLower = '%' :: '2' :: 'e' :: rest) :
    ∃ cs', cs'.map Char.toLower = rest ∧ ∀ done,
      Percent.decodeOnto done (Utf8.encodeChars cs) =
        Percent.decodeOnto (0x2E :: done) (Utf8.encodeChars cs') := by
  obtain ⟨c₁, cs, rfl, h₁, h⟩ := List.map_eq_cons_iff.mp h
  obtain ⟨c₂, cs, rfl, h₂, h⟩ := List.map_eq_cons_iff.mp h
  obtain ⟨c₃, cs', rfl, h₃, hrest⟩ := List.map_eq_cons_iff.mp h
  obtain rfl := eq_of_toLower_eq h₁ (by decide)
  obtain rfl := eq_of_toLower_eq h₂ (by decide)
  refine ⟨cs', hrest, fun done => ?_⟩
  have hletter : c₃ = 'e' ∨ c₃ = 'E' := by
    rcases eq_or_of_toLower_eq h₃ with h₃ | ⟨hsum, -⟩
    · exact Or.inl h₃
    · exact Or.inr (Char.toNat_inj.mp (Nat.add_right_cancel (m := 32) hsum))
  rcases hletter with rfl | rfl
  · change Percent.decodeOnto done (0x25 :: 0x32 :: 0x65 :: Utf8.encodeChars cs') = _
    rw [Percent.decodeOnto.eq_def]
    rfl
  · exact Percent.decodeOnto_escape 0x2E done _

/-- A point at the end, escaped or not, is read as a point. -/
theorem decodeOnto_lastPoint {cs : List Char} (done : Bytes)
    (h : cs.map Char.toLower = ['.'] ∨ cs.map Char.toLower = ['%', '2', 'e']) :
    Percent.decodeOnto done (Utf8.encodeChars cs) = (0x2E :: done).reverse := by
  have hread : ∃ cs' : List Char, cs'.map Char.toLower = [] ∧ ∀ done,
      Percent.decodeOnto done (Utf8.encodeChars cs) =
        Percent.decodeOnto (0x2E :: done) (Utf8.encodeChars cs') := by
    rcases h with h | h
    · exact decodeOnto_point h
    · exact decodeOnto_escapedPoint h
  obtain ⟨cs', hend, hread⟩ := hread
  rw [List.map_eq_nil_iff] at hend
  rw [hread, hend]
  simp [Utf8.encodeChars, Percent.decodeOnto]

/-- The small letters of a text are those of its characters. -/
theorem toList_toLower (s : String) : s.toLower.toList = s.toList.map Char.toLower :=
  String.toList_map

/-- A segment that stands for the place itself is read as a point. -/
theorem decode_of_isDot {segment : String} (h : isDot segment = true) :
    Percent.decode (Utf8.encode segment) = Utf8.encodeChars ['.'] := by
  have hforms : segment.toLower.toList = ['.'] ∨ segment.toLower.toList = ['%', '2', 'e'] := by
    simpa [isDot, ← String.toList_inj] using h
  rw [toList_toLower] at hforms
  exact decodeOnto_lastPoint [] hforms

/-- A segment that stands for the place above is read as two points. -/
theorem decode_of_isDotDot {segment : String} (h : isDotDot segment = true) :
    Percent.decode (Utf8.encode segment) = Utf8.encodeChars ['.', '.'] := by
  have hforms : segment.toLower.toList = ['.', '.'] ∨
      segment.toLower.toList = ['%', '2', 'e', '.'] ∨
      segment.toLower.toList = ['.', '%', '2', 'e'] ∨
      segment.toLower.toList = ['%', '2', 'e', '%', '2', 'e'] := by
    simpa [isDotDot, ← String.toList_inj] using h
  rw [toList_toLower] at hforms
  rw [Percent.decode, Utf8.encode]
  rcases hforms with h | h | h | h
  · obtain ⟨cs, hlast, hread⟩ := decodeOnto_point h
    exact (hread []).trans (decodeOnto_lastPoint _ (Or.inl hlast))
  · obtain ⟨cs, hlast, hread⟩ := decodeOnto_escapedPoint h
    exact (hread []).trans (decodeOnto_lastPoint _ (Or.inl hlast))
  · obtain ⟨cs, hlast, hread⟩ := decodeOnto_point h
    exact (hread []).trans (decodeOnto_lastPoint _ (Or.inr hlast))
  · obtain ⟨cs, hlast, hread⟩ := decodeOnto_escapedPoint h
    exact (hread []).trans (decodeOnto_lastPoint _ (Or.inr hlast))

/-- A text that stands for the place itself once escaped is a point, but for what is ignored. -/
theorem withoutIgnored_of_isDot {cs : List Char}
    (h : isDot (escapeText (escapedInSegment .special) cs) = true) : withoutIgnored cs = ['.'] :=
  Utf8.encodeChars_injective ((decode_escapeText cs).symm.trans (decode_of_isDot h))

/-- A text that stands for the place above once escaped is two points, but for what is ignored. -/
theorem withoutIgnored_of_isDotDot {cs : List Char}
    (h : isDotDot (escapeText (escapedInSegment .special) cs) = true) :
    withoutIgnored cs = ['.', '.'] :=
  Utf8.encodeChars_injective ((decode_escapeText cs).symm.trans (decode_of_isDotDot h))

end ToolGateway.Url
