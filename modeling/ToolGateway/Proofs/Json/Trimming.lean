import ToolGateway.Proofs.Json.Grammar
import ToolGateway.Proofs.Text.Ascii
import ToolGateway.Proofs.Text.Trimming

/-!
# Trimming a JSON text

The white space of JSON is blank, and the tokens of JSON begin and end with bytes that are visible
ASCII. So trimming a JSON text takes away the white space around it and nothing else, and what is
left is spelled by the same document (`Document.SpelledBy.trim`).
-/

namespace ToolGateway.Json

open Text (AllBlank TrimsTo isBlank)
open Text.Utf8 (charsOfBytes encodeChars)

/-! ## The ends of tokens -/

/-- A byte is visible ASCII. -/
def IsVisible (b : UInt8) : Prop := 0x20 < b ∧ b < 0x80

instance (b : UInt8) : Decidable (IsVisible b) := inferInstanceAs (Decidable (_ ∧ _))

/-- Whether bytes are visible is seen from one after the other. -/
theorem isVisible_of_all {bytes : Bytes} (h : (bytes.all fun b => decide (IsVisible b)) = true) :
    ∀ b ∈ bytes, IsVisible b := by
  simpa using h

/-- Bytes begin and end with visible ASCII. -/
structure HasVisibleEnds (bytes : Bytes) : Prop where
  head : ∃ b more, bytes = b :: more ∧ IsVisible b
  last : ∃ front b, bytes = front ++ [b] ∧ IsVisible b

/-- Visible bytes have visible ends. -/
theorem hasVisibleEnds_of_forall {bytes : Bytes} (hne : bytes ≠ [])
    (h : ∀ b ∈ bytes, IsVisible b) : HasVisibleEnds bytes := by
  constructor
  · obtain ⟨b, more, rfl⟩ := List.exists_cons_of_ne_nil hne
    exact ⟨b, more, rfl, h b List.mem_cons_self⟩
  · obtain ⟨front, b, rfl⟩ := (List.eq_nil_or_concat bytes).resolve_left hne
    rw [List.concat_eq_append] at h ⊢
    exact ⟨front, b, rfl, h b (by simp)⟩

/-- Digits are visible. -/
theorem isVisible_of_mem_map_digitCode {digits : List Nat} (hdigits : AreDigits digits)
    {b : UInt8} (hb : b ∈ digits.map digitCode) : IsVisible b := by
  obtain ⟨d, hd, rfl⟩ := List.mem_map.mp hb
  exact (by decide : ∀ d < 10, IsVisible (digitCode d)) d (hdigits d hd)

/-- So is an exponent. -/
theorem isVisible_of_mem_exponent {exponent : Option Int} {bytes : Bytes}
    (h : ExponentSpelledBy exponent bytes) {b : UInt8} (hb : b ∈ bytes) : IsVisible b := by
  have hletter (e : UInt8) (he : e = 0x65 ∨ e = 0x45) : IsVisible e := by
    rcases he with rfl | rfl <;> decide
  cases h with
  | none => cases hb
  | plain he _ hdigits =>
    rcases List.mem_cons.mp hb with rfl | hb
    · exact hletter _ he
    · exact isVisible_of_mem_map_digitCode hdigits hb
  | plus he _ hdigits | minus he _ hdigits =>
    rcases List.mem_cons.mp hb with rfl | hb
    · exact hletter _ he
    · rcases List.mem_cons.mp hb with rfl | hb
      · decide
      · exact isVisible_of_mem_map_digitCode hdigits hb

/-- And a number. -/
theorem isVisible_of_mem_literal {literal : Literal} {bytes : Bytes} (h : literal.SpelledBy bytes)
    {b : UInt8} (hb : b ∈ bytes) : IsVisible b := by
  obtain ⟨exponent, hexponent, rfl⟩ := h.parts
  simp only [List.mem_append] at hb
  rcases hb with hsign | hwhole | hfraction | hlast
  · obtain rfl : b = 0x2D := by
      unfold signBytes at hsign
      split at hsign
      · exact List.mem_singleton.mp hsign
      · cases hsign
    decide
  · exact isVisible_of_mem_map_digitCode h.whole.decimal hwhole
  · unfold fractionBytes at hfraction
    split at hfraction
    · cases hfraction
    · rcases List.mem_cons.mp hfraction with rfl | hdigit
      · decide
      · exact isVisible_of_mem_map_digitCode h.fraction hdigit
  · exact isVisible_of_mem_exponent hexponent hlast

/-- A token has visible ends. -/
theorem hasVisibleEnds_of_token {token : Token} {bytes : Bytes} (h : token.SpelledBy bytes) :
    HasVisibleEnds bytes := by
  cases h with
  | openArray | closeArray | openObject | closeObject | comma | colon | null | true | false =>
    exact hasVisibleEnds_of_forall (by decide) (isVisible_of_all (by decide))
  | number h =>
    refine hasVisibleEnds_of_forall ?_ fun b hb => isVisible_of_mem_literal h hb
    obtain ⟨exponent, -, rfl⟩ := h.parts
    simp [h.whole.ne]
  | string h => exact ⟨⟨0x22, _, rfl, by decide⟩, ⟨0x22 :: _, 0x22, rfl, by decide⟩⟩

/-- White space in front of a text does not matter. -/
theorem Token.ListSpelledBy.spaces {tokens : List Token} {spaces bytes : Bytes}
    (h : ListSpelledBy tokens bytes) (hspaces : AreSpaces spaces) :
    ListSpelledBy tokens (spaces ++ bytes) := by
  induction spaces with
  | nil => exact h
  | cons b spaces ih =>
    obtain ⟨hb, hmore⟩ := List.forall_mem_cons.mp hspaces
    exact (ih hmore).space hb

/-- A text that has tokens has visible ends between white space. -/
theorem exists_hasVisibleEnds {token : Token} {tokens : List Token} {bytes : Bytes}
    (h : Token.ListSpelledBy (token :: tokens) bytes) :
    ∃ left body right, bytes = left ++ (body ++ right) ∧ AreSpaces left ∧ AreSpaces right ∧
      HasVisibleEnds body ∧ Token.ListSpelledBy (token :: tokens) body := by
  induction tokens generalizing token bytes with
  | nil =>
    cases h with
    | cons hleft htoken hmore =>
      next left written right =>
      have hnil : AreSpaces [] := by simp [AreSpaces]
      have hbody := Token.ListSpelledBy.cons hnil htoken (.nil hnil)
      rw [List.nil_append, List.append_nil] at hbody
      cases hmore with
      | nil hright =>
        exact ⟨left, written, right, rfl, hleft, hright, hasVisibleEnds_of_token htoken, hbody⟩
  | cons next tokens ih =>
    cases h with
    | cons hleft htoken hmore =>
      next left written more =>
      obtain ⟨between, body, right, rfl, hbetween, hright, hends, hbody⟩ := ih hmore
      refine ⟨left, written ++ (between ++ body), right, by simp, hleft, hright, ⟨?_, ?_⟩, ?_⟩
      · obtain ⟨b, front, rfl, hb⟩ := (hasVisibleEnds_of_token htoken).head
        exact ⟨b, front ++ (between ++ body), rfl, hb⟩
      · obtain ⟨front, b, rfl, hb⟩ := hends.last
        exact ⟨written ++ (between ++ front), b, by simp, hb⟩
      · have hnil : AreSpaces [] := by simp [AreSpaces]
        have hwritten := Token.ListSpelledBy.cons hnil htoken (hbody.spaces hbetween)
        rwa [List.nil_append] at hwritten

/-! ## Trimming -/

/-- White space is ASCII. -/
theorem lt_of_isSpace {b : UInt8} (h : isSpace b = true) : b < 0x80 := by
  simp only [isSpace, Bool.or_eq_true, decide_eq_true_eq] at h
  rcases h with ((rfl | rfl) | rfl) | rfl <;> decide

/-- White space is blank. -/
theorem allBlank_of_areSpaces {spaces : Bytes} (h : AreSpaces spaces) :
    AllBlank (charsOfBytes spaces) := by
  intro c hc
  obtain ⟨b, hb, rfl⟩ := List.mem_map.mp hc
  have hspace := h b hb
  simp only [isSpace, Bool.or_eq_true, decide_eq_true_eq] at hspace
  rcases hspace with ((rfl | rfl) | rfl) | rfl <;> decide

/-- Visible ASCII is not blank. -/
theorem isBlank_of_isVisible {b : UInt8} (h : IsVisible b) :
    isBlank (Char.ofNat b.toNat) = false := by
  have hlow : 0x20 < b.toNat := h.1
  have hhigh : b.toNat < 0x80 := h.2
  simp only [isBlank, Text.Utf8.toNat_ofNat]
  generalize b.toNat = n at hlow hhigh
  simp only [Bool.or_eq_false_iff, Bool.and_eq_false_iff, decide_eq_false_iff_not,
    beq_eq_false_iff_ne]
  omega

/-- Characters whose bytes have visible ends have no blanks at theirs. -/
theorem trimsTo_of_hasVisibleEnds {left right : Bytes} {core : List Char} (hleft : AreSpaces left)
    (hright : AreSpaces right) (h : HasVisibleEnds (encodeChars core)) :
    TrimsTo (charsOfBytes left ++ core ++ charsOfBytes right) core := by
  refine ⟨⟨_, _, allBlank_of_areSpaces hleft, allBlank_of_areSpaces hright, rfl⟩, ?_, ?_⟩
  · obtain ⟨b, more, hbytes, hb⟩ := h.head
    have hcut : encodeChars core = [b] ++ more := hbytes
    obtain ⟨cs, rfl, -⟩ := Text.Utf8.exists_of_encodeChars_eq_append (by simpa using hb.2) hcut
    rintro _ ⟨⟩
    exact isBlank_of_isVisible hb
  · obtain ⟨front, b, hbytes, hb⟩ := h.last
    obtain ⟨cs, rfl, -⟩ :=
      Text.Utf8.exists_of_encodeChars_eq_append_right (by simpa using hb.2) hbytes
    intro c hc
    obtain rfl : Char.ofNat b.toNat = c := by simpa [charsOfBytes] using hc
    exact isBlank_of_isVisible hb

/-- A document has at least one token. -/
theorem Document.tokens_ne_nil (d : Document) : d.tokens ≠ [] := by
  cases d <;> simp [Document.tokens]

/-- A text of a document has visible ends between white space. -/
theorem Document.SpelledBy.exists_hasVisibleEnds {d : Document} {bytes : Bytes}
    (h : d.SpelledBy bytes) :
    ∃ left body right, bytes = left ++ (body ++ right) ∧ AreSpaces left ∧ AreSpaces right ∧
      HasVisibleEnds body ∧ d.SpelledBy body := by
  obtain ⟨token, tokens, htokens⟩ := List.exists_cons_of_ne_nil d.tokens_ne_nil
  unfold Document.SpelledBy at h ⊢
  rw [htokens] at h ⊢
  exact Json.exists_hasVisibleEnds h

/-- So it has visible bytes. -/
theorem Document.SpelledBy.exists_isVisible {d : Document} {bytes : Bytes}
    (h : d.SpelledBy bytes) : ∃ b ∈ bytes, IsVisible b := by
  obtain ⟨left, body, right, rfl, -, -, hends, -⟩ := h.exists_hasVisibleEnds
  obtain ⟨b, more, rfl, hb⟩ := hends.head
  exact ⟨b, by simp, hb⟩

/-- It is not empty. -/
theorem Document.SpelledBy.ne_nil {d : Document} {bytes : Bytes} (h : d.SpelledBy bytes) :
    bytes ≠ [] := by
  obtain ⟨b, hb, -⟩ := h.exists_isVisible
  exact List.ne_nil_of_mem hb

/-- A text without its blanks is spelled by the same document. -/
theorem Document.SpelledBy.trim {d : Document} {text : String}
    (h : d.SpelledBy (Text.Utf8.encode text)) :
    d.SpelledBy (Text.Utf8.encode (Text.trim text)) := by
  obtain ⟨left, body, right, hbytes, hleft, hright, hends, hbody⟩ := h.exists_hasVisibleEnds
  obtain ⟨more, hmore, hrest⟩ := Text.Utf8.exists_of_encodeChars_eq_append
    (fun b hb => lt_of_isSpace (hleft b hb)) hbytes
  obtain ⟨core, rfl, rfl⟩ := Text.Utf8.exists_of_encodeChars_eq_append_right
    (fun b hb => lt_of_isSpace (hright b hb)) hrest
  have htrims := trimsTo_of_hasVisibleEnds hleft hright hends
  rw [List.append_assoc, ← hmore] at htrims
  rw [Text.trim, Text.Utf8.encode, String.toList_ofList, Text.trimChars_eq_iff.mpr htrims]
  exact hbody

end ToolGateway.Json
