import Mathlib.Data.List.Chain
import ToolGateway.Json.Token
import ToolGateway.Proofs.Text.Percent
import ToolGateway.Text.Utf8

/-!
# How tokens are spelled

The spellings of a token of JSON, by the grammar and without reading: words and marks have one
spelling, a number is digits with a point and an exponent in their places, and a string is what its
pieces are spelled by, in quotation marks. A text is spelled by its tokens one after the other, with
white space between them.

`tokens?_eq_some_iff` says that cutting a text into tokens finds the tokens by which it is spelled,
as long as nothing behind a number could belong to it.
-/

namespace ToolGateway.Json

/-! ## Spellings -/

/-- A piece of a string is a byte that is no delimiter and no control character, an escape of one
letter, or one of four digits. -/
inductive Piece.SpelledBy : Piece → Bytes → Prop where
  | byte {b : UInt8} (hcontrol : 0x20 ≤ b) (hquote : b ≠ 0x22) (hbackslash : b ≠ 0x5C) :
    SpelledBy (.byte b) [b]
  | escaped {e : UInt8} {c : Char} (h : escape? (charOfByte e) = some c) :
    SpelledBy (.escaped c) [0x5C, e]
  | unit {h₁ h₂ h₃ h₄ : UInt8} {n : Nat} (h : unit? h₁ h₂ h₃ h₄ = some n) :
    SpelledBy (.unit n) [0x5C, 0x75, h₁, h₂, h₃, h₄]

/-- Pieces are spelled one after the other. -/
inductive Piece.ListSpelledBy : List Piece → Bytes → Prop where
  | nil : ListSpelledBy [] []
  | cons {piece : Piece} {pieces : List Piece} {bytes more : Bytes} (h : piece.SpelledBy bytes)
    (hmore : ListSpelledBy pieces more) : ListSpelledBy (piece :: pieces) (bytes ++ more)

/-- The code of a decimal digit. -/
def digitCode (d : Nat) : UInt8 := UInt8.ofNat (0x30 + d)

/-- Digits are decimal. -/
def AreDigits (digits : List Nat) : Prop := ∀ d ∈ digits, d < 10

/-- Digits are those of a natural number: there is at least one, and a zero at the front stands
alone. -/
structure AreWhole (digits : List Nat) : Prop where
  decimal : AreDigits digits
  ne : digits ≠ []
  zero : digits.head? = some 0 → digits = [0]

/-- The sign of a number. -/
def signBytes (negative : Bool) : Bytes := if negative then [0x2D] else []

/-- The digits behind the point, with the point where there are any. -/
def fractionBytes (digits : List Nat) : Bytes :=
  if digits = [] then [] else 0x2E :: digits.map digitCode

/-- An exponent follows the letter `e`, small or capital, and may have a sign. -/
inductive ExponentSpelledBy : Option Int → Bytes → Prop where
  | none : ExponentSpelledBy none []
  | plain {e : UInt8} {digits : List Nat} (he : e = 0x65 ∨ e = 0x45) (hne : digits ≠ [])
    (hdigits : AreDigits digits) :
    ExponentSpelledBy (some (natOfDigits digits)) (e :: digits.map digitCode)
  | plus {e : UInt8} {digits : List Nat} (he : e = 0x65 ∨ e = 0x45) (hne : digits ≠ [])
    (hdigits : AreDigits digits) :
    ExponentSpelledBy (some (natOfDigits digits)) (e :: 0x2B :: digits.map digitCode)
  | minus {e : UInt8} {digits : List Nat} (he : e = 0x65 ∨ e = 0x45) (hne : digits ≠ [])
    (hdigits : AreDigits digits) :
    ExponentSpelledBy (some (-(natOfDigits digits : Int))) (e :: 0x2D :: digits.map digitCode)

/-- A number is spelled by its sign, its digits and its exponent. -/
structure Literal.SpelledBy (literal : Literal) (bytes : Bytes) : Prop where
  whole : AreWhole literal.whole
  fraction : AreDigits literal.fraction
  parts : ∃ exponent, ExponentSpelledBy literal.exponent exponent ∧
    bytes = signBytes literal.negative ++ (literal.whole.map digitCode ++
      (fractionBytes literal.fraction ++ exponent))

/-- The spellings of a token. -/
inductive Token.SpelledBy : Token → Bytes → Prop where
  | openArray : SpelledBy .openArray (Text.Utf8.encode "[")
  | closeArray : SpelledBy .closeArray (Text.Utf8.encode "]")
  | openObject : SpelledBy .openObject (Text.Utf8.encode "\x7b")
  | closeObject : SpelledBy .closeObject (Text.Utf8.encode "\x7d")
  | comma : SpelledBy .comma (Text.Utf8.encode ",")
  | colon : SpelledBy .colon (Text.Utf8.encode ":")
  | null : SpelledBy .null (Text.Utf8.encode "null")
  | true : SpelledBy (.bool true) (Text.Utf8.encode "true")
  | false : SpelledBy (.bool false) (Text.Utf8.encode "false")
  | number {literal : Literal} {bytes : Bytes} (h : literal.SpelledBy bytes) :
    SpelledBy (.number literal) bytes
  | string {pieces : List Piece} {bytes : Bytes} (h : Piece.ListSpelledBy pieces bytes) :
    SpelledBy (.string pieces) (0x22 :: (bytes ++ [0x22]))

/-- White space. -/
def AreSpaces (bytes : Bytes) : Prop := ∀ b ∈ bytes, isSpace b = true

/-- Tokens are spelled one after the other, with white space before, between and behind them. -/
inductive Token.ListSpelledBy : List Token → Bytes → Prop where
  | nil {spaces : Bytes} (hspaces : AreSpaces spaces) : ListSpelledBy [] spaces
  | cons {token : Token} {tokens : List Token} {spaces bytes more : Bytes}
    (hspaces : AreSpaces spaces) (h : token.SpelledBy bytes) (hmore : ListSpelledBy tokens more) :
    ListSpelledBy (token :: tokens) (spaces ++ (bytes ++ more))

/-! ## Digits -/

/-- The character of a byte tells the byte. -/
theorem charOfByte_eq_iff {b : UInt8} {c : Char} : charOfByte b = c ↔ b.toNat = c.toNat := by
  rw [← Text.Utf8.toNat_ofNat b, Char.toNat_inj, charOfByte]

/-- A digit is read from its code alone. -/
theorem digit?_eq_some_iff {b : UInt8} {d : Nat} :
    digit? b = some d ↔ d < 10 ∧ b = digitCode d := by
  constructor
  · intro h
    unfold digit? at h
    split at h
    · next hrange =>
      obtain rfl := Option.some.inj h
      have hlow : 0x30 ≤ b.toNat := hrange.1
      have hhigh : b.toNat ≤ 0x39 := hrange.2
      refine ⟨by omega, ?_⟩
      rw [digitCode, Nat.add_sub_cancel' hlow, UInt8.ofNat_toNat]
    · cases h
  · rintro ⟨hd, rfl⟩
    exact (by decide : ∀ d < 10, digit? (digitCode d) = some d) d hd

/-- Nothing that follows is a digit. -/
def NoDigit (rest : Bytes) : Prop := ∀ b ∈ rest.head?, digit? b = none

/-- Nothing that follows belongs to a number. -/
def EndsNumber (rest : Bytes) : Prop :=
  NoDigit rest ∧ ∀ b ∈ rest.head?, b ≠ 0x2E ∧ b ≠ 0x65 ∧ b ≠ 0x45

/-- Digits are taken as far as they go. -/
theorem takeDigits_append {digits : List Nat} {rest : Bytes} (hdigits : AreDigits digits)
    (hrest : NoDigit rest) (done : List Nat) :
    takeDigits done (digits.map digitCode ++ rest) = (done.reverse ++ digits, rest) := by
  induction digits generalizing done with
  | nil =>
    cases rest with
    | nil => simp [takeDigits]
    | cons b rest => simp [takeDigits, hrest b rfl]
  | cons d digits ih =>
    obtain ⟨hd, hmore⟩ := List.forall_mem_cons.mp hdigits
    rw [List.map_cons, List.cons_append, takeDigits, digit?_eq_some_iff.mpr ⟨hd, rfl⟩]
    simp [ih hmore]

/-- What is taken are digits, and no digit follows. -/
theorem of_takeDigits {done found : List Nat} {bytes rest : Bytes}
    (h : takeDigits done bytes = (found, rest)) :
    ∃ digits, found = done.reverse ++ digits ∧ AreDigits digits ∧
      bytes = digits.map digitCode ++ rest ∧ NoDigit rest := by
  fun_induction takeDigits done bytes with
  | case1 done =>
    obtain ⟨rfl, rfl⟩ := Prod.mk.inj h
    exact ⟨[], (List.append_nil _).symm, by simp [AreDigits], rfl, by simp [NoDigit]⟩
  | case2 done b more d hd ih =>
    obtain ⟨digits, rfl, hdigits, rfl, hrest⟩ := ih h
    obtain ⟨hlt, rfl⟩ := digit?_eq_some_iff.mp hd
    exact ⟨d :: digits, by simp, List.forall_mem_cons.mpr ⟨hlt, hdigits⟩, rfl, hrest⟩
  | case3 done b more hnone =>
    obtain ⟨rfl, rfl⟩ := Prod.mk.inj h
    refine ⟨[], (List.append_nil _).symm, by simp [AreDigits], rfl, ?_⟩
    rintro _ ⟨⟩
    exact hnone

/-! ## Numbers -/

/-- The code of a digit is that of zero for zero only. -/
theorem digitCode_eq_zero_iff {d : Nat} (h : d < 10) : digitCode d = 0x30 ↔ d = 0 :=
  (by decide : ∀ d < 10, digitCode d = 0x30 ↔ d = 0) d h

/-- The digits before the point are read back. -/
theorem takeWhole_append {whole : List Nat} {rest : Bytes} (hwhole : AreWhole whole)
    (hrest : NoDigit rest) : takeWhole (whole.map digitCode ++ rest) = some (whole, rest) := by
  obtain ⟨d, digits, rfl⟩ := List.exists_cons_of_ne_nil hwhole.ne
  obtain ⟨hd, -⟩ := List.forall_mem_cons.mp hwhole.decimal
  by_cases hzero : d = 0
  · subst hzero
    rw [hwhole.zero rfl]
    rfl
  · have hcode : digitCode d ≠ 0x30 := mt (digitCode_eq_zero_iff hd).mp hzero
    have htake := takeDigits_append hwhole.decimal hrest []
    rw [List.map_cons, List.cons_append] at htake ⊢
    unfold takeWhole
    split
    · next heq => exact absurd (List.cons.inj heq).1 hcode
    · rw [htake]
      simp

/-- What is read before the point are the digits of a natural number. -/
theorem of_takeWhole {bytes rest : Bytes} {whole : List Nat}
    (h : takeWhole bytes = some (whole, rest)) :
    AreWhole whole ∧ bytes = whole.map digitCode ++ rest := by
  unfold takeWhole at h
  split at h
  · obtain ⟨rfl, rfl⟩ := Prod.mk.inj (Option.some.inj h)
    exact ⟨⟨by simp [AreDigits], by simp, fun _ => rfl⟩, rfl⟩
  · next hzero =>
    split at h
    · cases h
    · next hne =>
      obtain ⟨digits, hfound, hdigits, rfl, -⟩ := of_takeDigits (Option.some.inj h)
      obtain rfl : whole = digits := hfound
      have hsome : whole ≠ [] := by
        rintro rfl
        exact hne rest (Option.some.inj h)
      refine ⟨⟨hdigits, hsome, fun hhead => ?_⟩, rfl⟩
      obtain ⟨d, more, rfl⟩ := List.exists_cons_of_ne_nil hsome
      obtain rfl : d = 0 := Option.some.inj hhead
      exact absurd rfl (hzero (more.map digitCode ++ rest))

/-- The digits behind the point are read back. -/
theorem takeFraction_append {fraction : List Nat} {rest : Bytes} (hfraction : AreDigits fraction)
    (hrest : NoDigit rest) (hpoint : ∀ b ∈ rest.head?, b ≠ 0x2E) :
    takeFraction (fractionBytes fraction ++ rest) = some (fraction, rest) := by
  unfold fractionBytes
  split
  · next hnil =>
    subst hnil
    unfold takeFraction
    split
    · next heq =>
      rw [List.nil_append] at heq
      exact absurd rfl (hpoint 0x2E (heq ▸ rfl))
    · rfl
  · next hne =>
    rw [List.cons_append, takeFraction, takeDigits_append hfraction hrest]
    cases fraction with
    | nil => exact absurd rfl hne
    | cons d fraction => rfl

/-- What is read behind the point are digits. -/
theorem of_takeFraction {bytes rest : Bytes} {fraction : List Nat}
    (h : takeFraction bytes = some (fraction, rest)) :
    AreDigits fraction ∧ bytes = fractionBytes fraction ++ rest := by
  unfold takeFraction at h
  split at h
  · split at h
    · cases h
    · next digits more hne htake =>
      obtain ⟨rfl, rfl⟩ := Prod.mk.inj (Option.some.inj h)
      obtain ⟨found, hfound, hdigits, rfl, -⟩ := of_takeDigits htake
      obtain rfl : digits = found := hfound
      refine ⟨hdigits, ?_⟩
      rw [fractionBytes, if_neg hne, List.cons_append]
  · obtain ⟨rfl, rfl⟩ := Prod.mk.inj (Option.some.inj h)
    exact ⟨by simp [AreDigits], rfl⟩

/-- The digits of an exponent are read back. -/
theorem takeExponentDigits_append {digits : List Nat} {rest : Bytes} (hne : digits ≠ [])
    (hdigits : AreDigits digits) (hrest : NoDigit rest) (negative : Bool) :
    takeExponentDigits negative (digits.map digitCode ++ rest) =
      some (some (if negative then -(natOfDigits digits : Int) else natOfDigits digits), rest) := by
  rw [takeExponentDigits, takeDigits_append hdigits hrest]
  cases digits with
  | nil => exact absurd rfl hne
  | cons d digits => rfl

/-- What is read as the digits of an exponent are digits. -/
theorem of_takeExponentDigits {negative : Bool} {bytes rest : Bytes} {exponent : Option Int}
    (h : takeExponentDigits negative bytes = some (exponent, rest)) :
    ∃ digits, digits ≠ [] ∧ AreDigits digits ∧ bytes = digits.map digitCode ++ rest ∧
      exponent = some (if negative then -(natOfDigits digits : Int) else natOfDigits digits) := by
  unfold takeExponentDigits at h
  split at h
  · cases h
  · next digits more hne htake =>
    obtain ⟨rfl, rfl⟩ := Prod.mk.inj (Option.some.inj h)
    obtain ⟨found, hfound, hdigits, rfl, -⟩ := of_takeDigits htake
    obtain rfl : digits = found := hfound
    exact ⟨digits, hne, hdigits, rfl, rfl⟩

/-- The code of a digit is no sign. -/
theorem digitCode_ne_sign {d : Nat} (h : d < 10) : digitCode d ≠ 0x2B ∧ digitCode d ≠ 0x2D :=
  (by decide : ∀ d < 10, digitCode d ≠ 0x2B ∧ digitCode d ≠ 0x2D) d h

/-- An exponent is read back. -/
theorem takeExponent_append {exponent : Option Int} {bytes rest : Bytes}
    (h : ExponentSpelledBy exponent bytes) (hrest : EndsNumber rest) :
    takeExponent (bytes ++ rest) = some (exponent, rest) := by
  cases h with
  | none =>
    cases rest with
    | nil => rfl
    | cons b rest =>
      obtain ⟨-, hsmall, hcapital⟩ := hrest.2 b rfl
      have hletter : ¬ (b = 0x65 ∨ b = 0x45) := not_or.mpr ⟨hsmall, hcapital⟩
      rw [List.nil_append, takeExponent.eq_def]
      dsimp only
      rw [if_neg hletter]
  | plain he hne hdigits =>
    next e digits =>
    have htake := takeExponentDigits_append hne hdigits hrest.1 false
    obtain ⟨d, more, rfl⟩ := List.exists_cons_of_ne_nil hne
    obtain ⟨hplus, hminus⟩ := digitCode_ne_sign (hdigits d List.mem_cons_self)
    rw [List.map_cons, List.cons_append] at htake
    rw [List.cons_append, List.map_cons, List.cons_append, takeExponent.eq_def]
    dsimp only
    rw [if_pos he]
    split
    · next heq => exact absurd (List.cons.inj heq).1 hplus
    · next heq => exact absurd (List.cons.inj heq).1 hminus
    · exact htake
  | plus he hne hdigits =>
    rw [List.cons_append, List.cons_append, takeExponent, if_pos he]
    exact takeExponentDigits_append hne hdigits hrest.1 false
  | minus he hne hdigits =>
    rw [List.cons_append, List.cons_append, takeExponent, if_pos he]
    exact takeExponentDigits_append hne hdigits hrest.1 true

/-- What is read as an exponent is one. -/
theorem of_takeExponent {bytes rest : Bytes} {exponent : Option Int}
    (h : takeExponent bytes = some (exponent, rest)) :
    ∃ written, ExponentSpelledBy exponent written ∧ bytes = written ++ rest := by
  unfold takeExponent at h
  split at h
  · obtain ⟨rfl, rfl⟩ := Prod.mk.inj (Option.some.inj h)
    exact ⟨[], .none, rfl⟩
  · split at h
    · next he =>
      split at h
      · obtain ⟨digits, hne, hdigits, rfl, rfl⟩ := of_takeExponentDigits h
        exact ⟨_, .plus he hne hdigits, rfl⟩
      · obtain ⟨digits, hne, hdigits, rfl, rfl⟩ := of_takeExponentDigits h
        exact ⟨_, .minus he hne hdigits, rfl⟩
      · obtain ⟨digits, hne, hdigits, rfl, rfl⟩ := of_takeExponentDigits h
        exact ⟨_, .plain he hne hdigits, rfl⟩
    · obtain ⟨rfl, rfl⟩ := Prod.mk.inj (Option.some.inj h)
      exact ⟨[], .none, rfl⟩

/-- An exponent begins with its letter. -/
theorem ExponentSpelledBy.head {exponent : Option Int} {bytes : Bytes}
    (h : ExponentSpelledBy exponent bytes) : ∀ b ∈ bytes.head?, b = 0x65 ∨ b = 0x45 := by
  cases h with
  | none => simp
  | plain he => simpa using he
  | plus he => simpa using he
  | minus he => simpa using he

/-- No digit follows where a letter or nothing does, and nothing that belongs to a number behind
it. -/
theorem noDigit_append {bytes rest : Bytes} (h : ∀ b ∈ bytes.head?, digit? b = none)
    (hrest : NoDigit rest) : NoDigit (bytes ++ rest) := by
  cases bytes with
  | nil => exact hrest
  | cons b bytes => exact h

/-- A number is read back behind its sign. -/
theorem takeNumber_append {literal : Literal} {exponent rest : Bytes}
    (hwhole : AreWhole literal.whole) (hfraction : AreDigits literal.fraction)
    (hexponent : ExponentSpelledBy literal.exponent exponent) (hrest : EndsNumber rest) :
    takeNumber literal.negative (literal.whole.map digitCode ++
      (fractionBytes literal.fraction ++ (exponent ++ rest))) = some (literal, rest) := by
  have hletter : ∀ b ∈ exponent.head?, digit? b = none ∧ b ≠ 0x2E := by
    intro b hb
    rcases hexponent.head b hb with rfl | rfl <;> decide
  have hbehindFraction : NoDigit (exponent ++ rest) :=
    noDigit_append (fun b hb => (hletter b hb).1) hrest.1
  have hpoint : ∀ b ∈ (exponent ++ rest).head?, b ≠ 0x2E := by
    cases exponent with
    | nil => exact fun b hb => (hrest.2 b hb).1
    | cons e exponent => exact fun b hb => (hletter b hb).2
  have hbehindWhole : NoDigit (fractionBytes literal.fraction ++ (exponent ++ rest)) := by
    refine noDigit_append (fun b hb => ?_) hbehindFraction
    unfold fractionBytes at hb
    split at hb
    · cases hb
    · obtain rfl : 0x2E = b := Option.some.inj hb
      decide
  simp only [takeNumber, takeWhole_append hwhole hbehindWhole,
    takeFraction_append hfraction hbehindFraction hpoint, takeExponent_append hexponent hrest,
    Option.bind_eq_bind, Option.bind_some]
  rfl

/-- What is read as a number is one. -/
theorem of_takeNumber {negative : Bool} {bytes rest : Bytes} {literal : Literal}
    (h : takeNumber negative bytes = some (literal, rest)) :
    ∃ written, literal.SpelledBy (signBytes negative ++ written) ∧ bytes = written ++ rest := by
  simp only [takeNumber, Option.bind_eq_bind, Option.bind_eq_some_iff] at h
  obtain ⟨⟨whole, r₁⟩, hwhole, ⟨fraction, r₂⟩, hfraction, ⟨exponent, r₃⟩, hexponent, hdone⟩ := h
  obtain ⟨rfl, rfl⟩ := Prod.mk.inj (Option.some.inj hdone)
  obtain ⟨hwholeDigits, rfl⟩ := of_takeWhole hwhole
  obtain ⟨hfractionDigits, rfl⟩ := of_takeFraction hfraction
  obtain ⟨written, hwritten, rfl⟩ := of_takeExponent hexponent
  exact ⟨_, ⟨hwholeDigits, hfractionDigits, written, hwritten, rfl⟩, by simp⟩

/-! ## Strings -/

/-- The quotation mark ends a string. -/
theorem takeString_quote (done : List Piece) (rest : Bytes) :
    takeString done (0x22 :: rest) = some (done.reverse, rest) := by
  rw [takeString.eq_def]
  rfl

/-- A piece is read back and put on top of those before it. -/
theorem takeString_piece {piece : Piece} {bytes : Bytes} (h : piece.SpelledBy bytes)
    (done : List Piece) (rest : Bytes) :
    takeString done (bytes ++ rest) = takeString (piece :: done) rest := by
  have hbackslash : charOfByte 0x5C = '\\' := rfl
  cases h with
  | byte hcontrol hnoQuote hnoBackslash =>
    rw [List.singleton_append, takeString.eq_def]
    dsimp only
    split
    · next hchar => exact absurd (UInt8.toNat_inj.mp (charOfByte_eq_iff.mp hchar)) hnoQuote
    · next hchar => exact absurd (UInt8.toNat_inj.mp (charOfByte_eq_iff.mp hchar)) hnoBackslash
    · rw [if_neg (UInt8.not_lt.mpr hcontrol)]
  | escaped hletter =>
    rw [List.cons_append, List.singleton_append, takeString.eq_def]
    simp only [hbackslash]
    split
    · next hchar =>
      rw [hchar] at hletter
      cases hletter
    · rw [hletter]
  | unit hdigits =>
    have hu : charOfByte 0x75 = 'u' := rfl
    simp only [List.cons_append, List.nil_append]
    rw [takeString.eq_def]
    simp only [hbackslash, hu, hdigits]

/-- A string is read back up to its quotation mark. -/
theorem takeString_append {pieces : List Piece} {bytes : Bytes}
    (h : Piece.ListSpelledBy pieces bytes) (done : List Piece) (rest : Bytes) :
    takeString done (bytes ++ 0x22 :: rest) = some (done.reverse ++ pieces, rest) := by
  induction h generalizing done with
  | nil => rw [List.nil_append, takeString_quote, List.append_nil]
  | cons hpiece _ ih =>
    rw [List.append_assoc, takeString_piece hpiece, ih, List.reverse_cons, List.append_assoc,
      List.singleton_append]

/-- A piece comes in front of those that the rest of a string is read as. -/
theorem exists_pieces_cons {done found : List Piece} {piece : Piece} {spelling after rest : Bytes}
    (hpiece : piece.SpelledBy spelling)
    (hafter : ∃ pieces written, found = (piece :: done).reverse ++ pieces ∧
      Piece.ListSpelledBy pieces written ∧ after = written ++ 0x22 :: rest) :
    ∃ pieces written, found = done.reverse ++ pieces ∧ Piece.ListSpelledBy pieces written ∧
      spelling ++ after = written ++ 0x22 :: rest := by
  obtain ⟨pieces, written, rfl, hpieces, rfl⟩ := hafter
  exact ⟨piece :: pieces, spelling ++ written, by simp, .cons hpiece hpieces, by simp⟩

/-- A byte is told by its character. -/
theorem eq_of_charOfByte {b : UInt8} {c : Char} (h : charOfByte b = c) (code : UInt8)
    (hc : c.toNat = code.toNat) : b = code :=
  UInt8.toNat_inj.mp ((charOfByte_eq_iff.mp h).trans hc)

/-- What is read as a string is one. -/
theorem of_takeString {done found : List Piece} {bytes rest : Bytes}
    (h : takeString done bytes = some (found, rest)) :
    ∃ pieces written, found = done.reverse ++ pieces ∧ Piece.ListSpelledBy pieces written ∧
      bytes = written ++ 0x22 :: rest := by
  fun_induction takeString done bytes with
  | case2 done b rest' hquote =>
    obtain ⟨rfl, rfl⟩ := Prod.mk.inj (Option.some.inj h)
    obtain rfl := eq_of_charOfByte hquote 0x22 rfl
    exact ⟨[], [], (List.append_nil _).symm, .nil, rfl⟩
  | case4 done b hbackslash e hu h₁ h₂ h₃ h₄ rest' n hdigits ih =>
    obtain rfl := eq_of_charOfByte hbackslash 0x5C rfl
    obtain rfl := eq_of_charOfByte hu 0x75 rfl
    exact exists_pieces_cons (.unit hdigits) (ih h)
  | case7 done b hbackslash e rest' c hu hletter ih =>
    obtain rfl := eq_of_charOfByte hbackslash 0x5C rfl
    exact exists_pieces_cons (.escaped hletter) (ih h)
  | case10 done b rest' hcontrol hquote hbackslash ih =>
    refine exists_pieces_cons (.byte (UInt8.not_lt.mp hcontrol) ?_ ?_) (ih h)
    · rintro rfl
      exact hquote rfl
    · rintro rfl
      exact hbackslash rfl
  | case1 | case3 | case5 | case6 | case8 | case9 => cases h

/-! ## Tokens -/

/-- A number begins with a digit, unless it has a sign. -/
theorem next?_digitCode {d : Nat} (h : d < 10) (rest : Bytes) :
    next? (digitCode d) rest =
      (takeNumber false (digitCode d :: rest)).map fun (literal, rest) =>
        (.number literal, rest) := by
  match d, h with
  | 0, _ | 1, _ | 2, _ | 3, _ | 4, _ | 5, _ | 6, _ | 7, _ | 8, _ | 9, _ => rfl

/-- The code of a digit is no white space. -/
theorem isSpace_digitCode {d : Nat} (h : d < 10) : isSpace (digitCode d) = false :=
  (by decide : ∀ d < 10, isSpace (digitCode d) = false) d h

/-- A number is read back from its spelling, which begins with no white space. -/
theorem next?_number {literal : Literal} {bytes rest : Bytes} (h : literal.SpelledBy bytes)
    (hrest : EndsNumber rest) :
    ∃ b more, bytes = b :: more ∧ isSpace b = false ∧
      next? b (more ++ rest) = some (.number literal, rest) := by
  obtain ⟨hwhole, hfraction, exponent, hexponent, rfl⟩ := h
  have hnumber := takeNumber_append hwhole hfraction hexponent hrest
  obtain ⟨negative, whole, fraction, e⟩ := literal
  cases negative with
  | true =>
    refine ⟨0x2D, whole.map digitCode ++ (fractionBytes fraction ++ exponent), rfl, rfl, ?_⟩
    rw [List.append_assoc, List.append_assoc]
    change (takeNumber true _).map _ = _
    rw [hnumber, Option.map_some]
  | false =>
    obtain ⟨d, digits, rfl⟩ := List.exists_cons_of_ne_nil hwhole.ne
    have hd : d < 10 := hwhole.decimal d List.mem_cons_self
    refine ⟨digitCode d, digits.map digitCode ++ (fractionBytes fraction ++ exponent), rfl,
      isSpace_digitCode hd, ?_⟩
    rw [List.append_assoc, List.append_assoc, next?_digitCode hd]
    rw [List.map_cons, List.cons_append] at hnumber
    rw [hnumber, Option.map_some]

/-- So is every token. -/
theorem next?_append {token : Token} {bytes rest : Bytes} (h : token.SpelledBy bytes)
    (hrest : ∀ literal, token = .number literal → EndsNumber rest) :
    ∃ b more, bytes = b :: more ∧ isSpace b = false ∧
      next? b (more ++ rest) = some (token, rest) := by
  cases h with
  | openArray => exact ⟨0x5B, [], rfl, rfl, rfl⟩
  | closeArray => exact ⟨0x5D, [], rfl, rfl, rfl⟩
  | openObject => exact ⟨0x7B, [], rfl, rfl, rfl⟩
  | closeObject => exact ⟨0x7D, [], rfl, rfl, rfl⟩
  | comma => exact ⟨0x2C, [], rfl, rfl, rfl⟩
  | colon => exact ⟨0x3A, [], rfl, rfl, rfl⟩
  | null => exact ⟨0x6E, [0x75, 0x6C, 0x6C], rfl, rfl, rfl⟩
  | true => exact ⟨0x74, [0x72, 0x75, 0x65], rfl, rfl, rfl⟩
  | false => exact ⟨0x66, [0x61, 0x6C, 0x73, 0x65], rfl, rfl, rfl⟩
  | number h => exact next?_number h (hrest _ rfl)
  | string h =>
    next pieces inner =>
    refine ⟨0x22, _, rfl, rfl, ?_⟩
    rw [List.append_assoc, List.singleton_append]
    change (takeString [] _).map _ = _
    rw [takeString_append h, Option.map_some]
    rfl

/-- A word is read as it is spelled. -/
theorem of_takeWord {token found : Token} {word bytes rest : Bytes}
    (h : takeWord token word bytes = some (found, rest)) :
    found = token ∧ bytes = word ++ rest := by
  fun_induction takeWord token word bytes with
  | case1 rest' =>
    obtain ⟨rfl, rfl⟩ := Prod.mk.inj (Option.some.inj h)
    exact ⟨rfl, rfl⟩
  | case2 => cases h
  | case3 w word rest' ih =>
    obtain ⟨rfl, rfl⟩ := ih h
    exact ⟨rfl, rfl⟩
  | case4 => cases h

/-- What is read as a token is one. -/
theorem of_next? {b : UInt8} {rest after : Bytes} {token : Token}
    (h : next? b rest = some (token, after)) :
    ∃ written, token.SpelledBy written ∧ b :: rest = written ++ after := by
  have hmark {found : Token} (hfound : some (found, rest) = some (token, after)) :
      found = token ∧ rest = after := Prod.mk.inj (Option.some.inj hfound)
  unfold next? at h
  split at h
  case h_1 hb =>
    obtain ⟨rfl, rfl⟩ := hmark h
    exact ⟨_, .openArray, eq_of_charOfByte hb 0x5B rfl ▸ rfl⟩
  case h_2 hb =>
    obtain ⟨rfl, rfl⟩ := hmark h
    exact ⟨_, .closeArray, eq_of_charOfByte hb 0x5D rfl ▸ rfl⟩
  case h_3 hb =>
    obtain ⟨rfl, rfl⟩ := hmark h
    exact ⟨_, .openObject, eq_of_charOfByte hb 0x7B rfl ▸ rfl⟩
  case h_4 hb =>
    obtain ⟨rfl, rfl⟩ := hmark h
    exact ⟨_, .closeObject, eq_of_charOfByte hb 0x7D rfl ▸ rfl⟩
  case h_5 hb =>
    obtain ⟨rfl, rfl⟩ := hmark h
    exact ⟨_, .comma, eq_of_charOfByte hb 0x2C rfl ▸ rfl⟩
  case h_6 hb =>
    obtain ⟨rfl, rfl⟩ := hmark h
    exact ⟨_, .colon, eq_of_charOfByte hb 0x3A rfl ▸ rfl⟩
  case h_7 hb =>
    obtain ⟨rfl, rfl⟩ := of_takeWord h
    exact ⟨_, .null, eq_of_charOfByte hb 0x6E rfl ▸ rfl⟩
  case h_8 hb =>
    obtain ⟨rfl, rfl⟩ := of_takeWord h
    exact ⟨_, .true, eq_of_charOfByte hb 0x74 rfl ▸ rfl⟩
  case h_9 hb =>
    obtain ⟨rfl, rfl⟩ := of_takeWord h
    exact ⟨_, .false, eq_of_charOfByte hb 0x66 rfl ▸ rfl⟩
  case h_10 hb =>
    obtain ⟨⟨pieces, more⟩, htake, hfound⟩ := Option.map_eq_some_iff.mp h
    obtain ⟨rfl, rfl⟩ := Prod.mk.inj hfound
    obtain ⟨found, written, hpieces, hwritten, rfl⟩ := of_takeString htake
    obtain rfl : pieces = found := hpieces
    obtain rfl := eq_of_charOfByte hb 0x22 rfl
    exact ⟨_, .string hwritten, by simp⟩
  case h_11 hb =>
    obtain ⟨⟨literal, more⟩, htake, hfound⟩ := Option.map_eq_some_iff.mp h
    obtain ⟨rfl, rfl⟩ := Prod.mk.inj hfound
    obtain ⟨written, hwritten, rfl⟩ := of_takeNumber htake
    obtain rfl := eq_of_charOfByte hb 0x2D rfl
    exact ⟨_, .number hwritten, rfl⟩
  case h_12 =>
    split at h
    · obtain ⟨⟨literal, more⟩, htake, hfound⟩ := Option.map_eq_some_iff.mp h
      obtain ⟨rfl, rfl⟩ := Prod.mk.inj hfound
      obtain ⟨written, hwritten, hbytes⟩ := of_takeNumber htake
      exact ⟨_, .number hwritten, hbytes⟩
    · cases h

/-! ## Texts -/

/-- White space in front does not matter. -/
theorem Token.ListSpelledBy.space {tokens : List Token} {bytes : Bytes} {b : UInt8}
    (h : ListSpelledBy tokens bytes) (hb : isSpace b = true) :
    ListSpelledBy tokens (b :: bytes) := by
  cases h with
  | nil hspaces => exact .nil (List.forall_mem_cons.mpr ⟨hb, hspaces⟩)
  | cons hspaces htoken hmore =>
    rw [← List.cons_append]
    exact .cons (List.forall_mem_cons.mpr ⟨hb, hspaces⟩) htoken hmore

/-- What is cut into tokens is spelled by them. -/
theorem of_cutTokens {done found : List Token} {bytes : Bytes}
    (h : cutTokens done bytes = some found) :
    ∃ tokens, found = done.reverse ++ tokens ∧ Token.ListSpelledBy tokens bytes := by
  fun_induction cutTokens done bytes with
  | case1 done =>
    obtain rfl := Option.some.inj h
    exact ⟨[], (List.append_nil _).symm, .nil (by simp [AreSpaces])⟩
  | case2 done b rest hb ih =>
    obtain ⟨tokens, hfound, htokens⟩ := ih h
    exact ⟨tokens, hfound, htokens.space hb⟩
  | case3 => cases h
  | case4 done b rest hb token after hnext ih =>
    obtain ⟨tokens, rfl, htokens⟩ := ih h
    obtain ⟨written, hwritten, hbytes⟩ := of_next? hnext
    refine ⟨token :: tokens, by simp, ?_⟩
    have hspaces : AreSpaces [] := by simp [AreSpaces]
    rw [hbytes]
    exact .cons hspaces hwritten htokens

/-- White space in front is skipped. -/
theorem cutTokens_spaces {spaces : Bytes} (h : AreSpaces spaces) (done : List Token)
    (bytes : Bytes) : cutTokens done (spaces ++ bytes) = cutTokens done bytes := by
  induction spaces with
  | nil => rfl
  | cons b spaces ih =>
    obtain ⟨hb, hmore⟩ := List.forall_mem_cons.mp h
    rw [List.cons_append, cutTokens, if_pos hb, ih hmore]

/-- The tokens behind which a number is complete. -/
def Token.endsNumber : Token → Bool
  | .comma => true
  | .closeArray => true
  | .closeObject => true
  | _ => false

/-- Whether a token may stand behind another: behind a number only one that ends it. -/
def Token.MayPrecede (token next : Token) : Prop :=
  ∀ literal, token = .number literal → next.endsNumber = true

/-- A token that ends a number begins with no part of one, and so does white space. -/
theorem endsNumber_of_listSpelledBy {tokens : List Token} {bytes : Bytes}
    (h : Token.ListSpelledBy tokens bytes)
    (hhead : ∀ token ∈ tokens.head?, token.endsNumber = true) :
    EndsNumber bytes := by
  have hplain (b : UInt8) (hb : digit? b = none ∧ b ≠ 0x2E ∧ b ≠ 0x65 ∧ b ≠ 0x45) (rest : Bytes) :
      EndsNumber (b :: rest) := by
    simpa [EndsNumber, NoDigit] using hb
  have hspace (b : UInt8) (hb : isSpace b = true) (rest : Bytes) : EndsNumber (b :: rest) := by
    simp only [isSpace, Bool.or_eq_true, decide_eq_true_eq] at hb
    refine hplain b ?_ rest
    rcases hb with ((rfl | rfl) | rfl) | rfl <;> decide
  cases h with
  | nil hspaces =>
    cases bytes with
    | nil => simp [EndsNumber, NoDigit]
    | cons b bytes => exact hspace b (hspaces b List.mem_cons_self) bytes
  | cons hspaces htoken hmore =>
    next token tokens spaces written more =>
    cases spaces with
    | cons b spaces => exact hspace b (hspaces b List.mem_cons_self) _
    | nil =>
      have hends := hhead token rfl
      cases htoken with
      | comma => exact hplain 0x2C (by decide) more
      | closeArray => exact hplain 0x5D (by decide) more
      | closeObject => exact hplain 0x7D (by decide) more
      | _ => cases hends

/-- A text is cut into the tokens by which it is spelled, if nothing but the end of a number stands
behind one. -/
theorem cutTokens_of_listSpelledBy {tokens : List Token} {bytes : Bytes}
    (h : Token.ListSpelledBy tokens bytes) (hchain : tokens.IsChain Token.MayPrecede)
    (done : List Token) : cutTokens done bytes = some (done.reverse ++ tokens) := by
  induction h generalizing done with
  | nil hspaces =>
    have hskip := cutTokens_spaces hspaces done []
    rw [List.append_nil, cutTokens] at hskip
    rw [hskip, List.append_nil]
  | cons hspaces htoken hmore ih =>
    next token tokens spaces written more =>
    obtain ⟨hhead, htail⟩ := List.isChain_cons.mp hchain
    have hends : ∀ literal, token = .number literal → EndsNumber more := fun literal hliteral =>
      endsNumber_of_listSpelledBy hmore fun next hnext => hhead next hnext literal hliteral
    obtain ⟨b, after, rfl, hb, hnext⟩ := next?_append htoken hends
    rw [cutTokens_spaces hspaces, List.cons_append, cutTokens, if_neg (by simp [hb])]
    split
    · next hnone =>
      rw [hnext] at hnone
      cases hnone
    · next found rest hfound =>
      obtain ⟨rfl, rfl⟩ := Prod.mk.inj (Option.some.inj (hnext.symm.trans hfound))
      rw [ih htail, List.reverse_cons, List.append_assoc, List.singleton_append]

/-- A text has the tokens by which it is spelled. -/
theorem tokens?_eq_some_iff {tokens : List Token} {bytes : Bytes}
    (hchain : tokens.IsChain Token.MayPrecede) :
    tokens? bytes = some tokens ↔ Token.ListSpelledBy tokens bytes := by
  constructor
  · intro h
    obtain ⟨found, hfound, hspelled⟩ := of_cutTokens h
    obtain rfl : tokens = found := hfound
    exact hspelled
  · exact fun h => cutTokens_of_listSpelledBy h hchain []

end ToolGateway.Json
