import ToolGateway.Json.Reading
import ToolGateway.Proofs.Json.Trimming
import ToolGateway.Proofs.Text.Written

/-!
# Strings that stand for texts

A string within a text can be decoded if and only if its surrogates come in pairs: an escape of
half a pair stands for nothing, and everything else that may stand in a string stands for a
character. Bytes that are no UTF-8 do not come into it, because the text around is UTF-8.
-/

namespace ToolGateway.Json

open Text.Utf8 (encodeChars)

/-! ## Pairs of surrogates -/

/-- The numbers of surrogates. -/
def IsSurrogate (n : Nat) : Prop := 0xD800 ≤ n ∧ n ≤ 0xDFFF

/-- Every surrogate that is escaped is one of a pair. -/
inductive Piece.PairUp : List Piece → Prop
  | nil : PairUp []
  | byte (b : UInt8) {pieces : List Piece} (h : PairUp pieces) : PairUp (.byte b :: pieces)
  | escaped (c : Char) {pieces : List Piece} (h : PairUp pieces) : PairUp (.escaped c :: pieces)
  | unit {n : Nat} (hn : ¬ IsSurrogate n) {pieces : List Piece} (h : PairUp pieces) :
    PairUp (.unit n :: pieces)
  | pair {n m : Nat} (hn : 0xD800 ≤ n ∧ n ≤ 0xDBFF) (hm : 0xDC00 ≤ m ∧ m ≤ 0xDFFF)
    {pieces : List Piece} (h : PairUp pieces) : PairUp (.unit n :: .unit m :: pieces)

/-- A surrogate is no character. -/
theorem charOfUnit?_of_surrogate {n : Nat} (h : IsSurrogate n) : charOfUnit? n = none := if_pos h

/-- Every other number of a unit is one. -/
theorem charOfUnit?_of_not_surrogate {n : Nat} (h : ¬ IsSurrogate n) :
    charOfUnit? n = some (Char.ofNat n) := if_neg h

/-- What is decoded has its surrogates in pairs. -/
theorem pairUp_of_bytesOnto {done found : Bytes} {pieces : List Piece}
    (h : bytesOnto done pieces = some found) : Piece.PairUp pieces := by
  fun_induction bytesOnto done pieces with
  | case1 => exact .nil
  | case2 done b rest ih => exact .byte b (ih h)
  | case3 done c rest ih => exact .escaped c (ih h)
  | case4 done n rest c hc ih =>
    refine .unit (fun hn => ?_) (ih h)
    rw [charOfUnit?_of_surrogate hn] at hc
    cases hc
  | case5 done n hn m rest c hc ih =>
    unfold charOfPair? at hc
    split at hc
    · next hpair => exact .pair hpair.1 hpair.2 (ih h)
    · cases hc
  | case6 | case7 => cases h

/-! ## Strings within texts -/

/-- A piece stands for its byte, or its spelling is ASCII and begins with a backslash. -/
theorem Piece.SpelledBy.cases_byte {piece : Piece} {bytes : Bytes} (h : piece.SpelledBy bytes) :
    (∃ b, piece = .byte b ∧ bytes = [b]) ∨
      (∀ b, piece ≠ .byte b) ∧ (∀ b ∈ bytes, b < 0x80) ∧ bytes.head? = some 0x5C := by
  have hdigit {b : UInt8} {d : Nat} (h : Text.hexCodeValue? b.toNat = some d) : b < 0x80 := by
    change b.toNat < 0x80
    unfold Text.hexCodeValue? at h
    split at h
    · omega
    · split at h
      · omega
      · split at h
        · omega
        · cases h
  cases h with
  | byte => exact Or.inl ⟨_, rfl, rfl⟩
  | escaped hletter =>
    next e c =>
    have he : e < 0x80 := by
      change e.toNat < 0x80
      rw [← Text.Utf8.toNat_ofNat e]
      change (charOfByte e).toNat < 0x80
      unfold escape? at hletter
      split at hletter
      case h_9 => cases hletter
      all_goals next hchar => rw [hchar]; decide
    refine Or.inr ⟨by simp, ?_, rfl⟩
    simp [he]
  | unit hunit =>
    simp only [unit?, Option.bind_eq_bind, Option.bind_eq_some_iff] at hunit
    obtain ⟨_, h₁, _, h₂, _, h₃, _, h₄, -⟩ := hunit
    refine Or.inr ⟨by simp, ?_, rfl⟩
    simp [hdigit h₁, hdigit h₂, hdigit h₃, hdigit h₄]

/-- Bytes beyond ASCII in a string stand for themselves. -/
theorem exists_of_beyond {pieces : List Piece} {bytes more : Bytes}
    (hbytes : ∀ b ∈ bytes, 0x80 ≤ b) (h : Piece.ListSpelledBy pieces (bytes ++ more)) :
    ∃ rest, pieces = bytes.map .byte ++ rest ∧ Piece.ListSpelledBy rest more := by
  induction bytes generalizing pieces with
  | nil => exact ⟨pieces, rfl, h⟩
  | cons b bytes ih =>
    obtain ⟨hb, hbehind⟩ := List.forall_mem_cons.mp hbytes
    generalize hall : b :: bytes ++ more = all at h
    cases h with
    | nil => cases hall
    | cons hpiece hmore =>
      next piece pieces spelling after =>
      rcases hpiece.cases_byte with ⟨b', rfl, rfl⟩ | ⟨-, -, hhead⟩
      · obtain ⟨rfl, rfl⟩ := List.cons.inj hall
        obtain ⟨rest, rfl, hrest⟩ := ih hbehind hmore
        exact ⟨rest, rfl, hrest⟩
      · obtain ⟨own, rfl⟩ := List.head?_eq_some_iff.mp hhead
        obtain ⟨rfl, -⟩ := List.cons.inj hall
        exact absurd hb (by decide)

/-- The string at the front of a text begins with the bytes of a character, or with an escape. -/
theorem exists_of_listSpelledBy_cons {piece : Piece} {pieces : List Piece} {cs : List Char}
    (h : Piece.ListSpelledBy (piece :: pieces) (encodeChars cs)) :
    (∃ c rest, piece :: pieces = (String.utf8EncodeChar c).map .byte ++ rest ∧
        ∃ ds, Piece.ListSpelledBy rest (encodeChars ds)) ∨
      (∀ b, piece ≠ .byte b) ∧ ∃ ds, Piece.ListSpelledBy pieces (encodeChars ds) := by
  have hall := h
  generalize hbytes : encodeChars cs = bytes at h
  cases h with
  | cons hpiece hmore =>
    next spelling after =>
    rcases hpiece.cases_byte with ⟨b, rfl, rfl⟩ | ⟨hescape, hascii, -⟩
    · left
      cases cs with
      | nil => cases hbytes
      | cons c cs =>
        rw [encodeChars, List.flatMap_cons, ← encodeChars] at hbytes hall
        rcases Text.Utf8.utf8EncodeChar_cases c with ⟨b', -, hone⟩ | hbeyond
        · rw [hone] at hbytes
          obtain ⟨rfl, rfl⟩ := List.cons.inj hbytes
          exact ⟨c, pieces, by rw [hone]; rfl, cs, hmore⟩
        · obtain ⟨rest, hrest, hspelled⟩ := exists_of_beyond hbeyond hall
          exact ⟨c, rest, hrest, cs, hspelled⟩
    · obtain ⟨ds, -, rfl⟩ := Text.Utf8.exists_of_encodeChars_eq_append hascii hbytes
      exact Or.inr ⟨hescape, ds, hmore⟩

/-- Bytes are put on top. -/
theorem bytesOnto_map_byte (done bytes : Bytes) (pieces : List Piece) :
    bytesOnto done (bytes.map .byte ++ pieces) = bytesOnto (bytes.reverse ++ done) pieces := by
  induction bytes generalizing done with
  | nil => rfl
  | cons b bytes ih =>
    rw [List.map_cons, List.cons_append, bytesOnto, ih]
    simp

/-- Surrogates stay in pairs behind bytes. -/
theorem pairUp_of_append {bytes : Bytes} {pieces : List Piece}
    (h : Piece.PairUp (bytes.map .byte ++ pieces)) : Piece.PairUp pieces := by
  induction bytes with
  | nil => exact h
  | cons b bytes ih =>
    cases h with
    | byte _ h => exact ih h

/-- An escape that is no half of a pair stands for a character. -/
theorem bytesOnto_unit {n : Nat} (h : ¬ IsSurrogate n) (done : Bytes) (pieces : List Piece) :
    bytesOnto done (.unit n :: pieces) =
      bytesOnto ((String.utf8EncodeChar (Char.ofNat n)).reverse ++ done) pieces := by
  rw [bytesOnto.eq_def]
  simp only [charOfUnit?_of_not_surrogate h]

/-- So do both halves of a pair. -/
theorem bytesOnto_pair {n m : Nat} {c : Char} (hn : IsSurrogate n) (h : charOfPair? n m = some c)
    (done : Bytes) (pieces : List Piece) :
    bytesOnto done (.unit n :: .unit m :: pieces) =
      bytesOnto ((String.utf8EncodeChar c).reverse ++ done) pieces := by
  rw [bytesOnto, charOfUnit?_of_surrogate hn]
  dsimp only
  rw [h]

/-- Any two halves make a pair. -/
theorem exists_bytesOnto_pair {n m : Nat} (hn : 0xD800 ≤ n ∧ n ≤ 0xDBFF)
    (hm : 0xDC00 ≤ m ∧ m ≤ 0xDFFF) (done : Bytes) (pieces : List Piece) :
    ∃ c, bytesOnto done (.unit n :: .unit m :: pieces) =
      bytesOnto ((String.utf8EncodeChar c).reverse ++ done) pieces :=
  ⟨_, bytesOnto_pair ⟨hn.1, by omega⟩ (if_pos ⟨hn, hm⟩) done pieces⟩

/-- A string of a text whose surrogates come in pairs is decoded to characters. -/
theorem exists_bytesOnto {pieces : List Piece} {cs : List Char}
    (h : Piece.ListSpelledBy pieces (encodeChars cs)) (hpairs : Piece.PairUp pieces)
    (done : Bytes) :
    ∃ ds, bytesOnto done pieces = some ((encodeChars ds).reverse ++ done) := by
  induction hlength : pieces.length using Nat.strongRecOn generalizing pieces cs done with
  | ind length ih =>
    subst hlength
    -- One character is read from the front, and the rest of the string is shorter.
    have hstep {rest : List Piece} {c : Char} {ds : List Char}
        (hrest : rest.length < pieces.length) (hspelled : Piece.ListSpelledBy rest (encodeChars ds))
        (hrestPairs : Piece.PairUp rest)
        (hread : bytesOnto done pieces =
          bytesOnto ((String.utf8EncodeChar c).reverse ++ done) rest) :
        ∃ ds, bytesOnto done pieces = some ((encodeChars ds).reverse ++ done) := by
      obtain ⟨es, hes⟩ := ih _ hrest hspelled hrestPairs _ rfl
      refine ⟨c :: es, ?_⟩
      rw [hread, hes]
      simp [encodeChars]
    cases pieces with
    | nil => exact ⟨[], rfl⟩
    | cons piece pieces =>
      rcases exists_of_listSpelledBy_cons h with
        ⟨c, rest, hsame, ds, hspelled⟩ | ⟨hescape, ds, hspelled⟩
      · rw [hsame] at hpairs
        refine hstep ?_ hspelled (pairUp_of_append hpairs) (by rw [hsame, bytesOnto_map_byte])
        have hpos : 0 < (String.utf8EncodeChar c).length :=
          List.length_pos_iff.mpr String.utf8EncodeChar_ne_nil
        rw [hsame, List.length_append, List.length_map]
        omega
      · cases hpairs with
        | byte b => exact absurd rfl (hescape b)
        | escaped c hpairs => exact hstep (Nat.lt_succ_self _) hspelled hpairs rfl
        | unit hn hpairs =>
          next n =>
          exact hstep (Nat.lt_succ_self _) hspelled hpairs (bytesOnto_unit hn done _)
        | pair hn hm hpairs =>
          next n m rest =>
          rcases exists_of_listSpelledBy_cons hspelled with
            ⟨c, more, hsame, -⟩ | ⟨-, es, hmore⟩
          · obtain ⟨b, own, hown⟩ :=
              List.exists_cons_of_ne_nil (String.utf8EncodeChar_ne_nil (c := c))
            rw [hown] at hsame
            cases (List.cons.inj hsame).1
          · obtain ⟨c, hread⟩ := exists_bytesOnto_pair hn hm done rest
            exact hstep (by simp only [List.length_cons]; omega) hmore hpairs hread

/-- A string of a text stands for a text if and only if its surrogates come in pairs. -/
theorem isSome_text?_iff {pieces : List Piece} {cs : List Char}
    (h : Piece.ListSpelledBy pieces (encodeChars cs)) :
    (text? pieces).isSome = true ↔ Piece.PairUp pieces := by
  constructor
  · intro hsome
    obtain ⟨s, hs⟩ := Option.isSome_iff_exists.mp hsome
    obtain ⟨found, hfound, -⟩ := Option.bind_eq_some_iff.mp hs
    exact pairUp_of_bytesOnto hfound
  · intro hpairs
    obtain ⟨ds, hds⟩ := exists_bytesOnto h hpairs []
    have hread := Text.Utf8.decode?_encode (String.ofList ds)
    rw [Text.Utf8.encode, String.toList_ofList] at hread
    rw [text?, hds, Option.bind_some, List.append_nil, List.reverse_reverse, hread]
    rfl

/-! ## Names within texts -/

/-- A token that is no string is ASCII. -/
theorem lt_of_mem_token {token : Token} {bytes : Bytes} (h : token.SpelledBy bytes)
    (htoken : ∀ pieces, token ≠ .string pieces) : ∀ b ∈ bytes, b < 0x80 := by
  cases h with
  | openArray | closeArray | openObject | closeObject | comma | colon | null | true | false =>
    exact fun b hb => (isVisible_of_all (by decide) b hb).2
  | number h => exact fun b hb => (isVisible_of_mem_literal h hb).2
  | string => exact absurd rfl (htoken _)

/-- The strings of a text are texts themselves. -/
theorem exists_of_string_mem {tokens : List Token} {cs : List Char}
    (h : Token.ListSpelledBy tokens (encodeChars cs)) {pieces : List Piece}
    (hmem : .string pieces ∈ tokens) : ∃ ds, Piece.ListSpelledBy pieces (encodeChars ds) := by
  induction tokens generalizing cs with
  | nil => cases hmem
  | cons token tokens ih =>
    generalize hbytes : encodeChars cs = bytes at h
    cases h with
    | cons hspaces htoken hmore =>
      obtain ⟨cs, -, hfront⟩ := Text.Utf8.exists_of_encodeChars_eq_append
        (fun b hb => lt_of_isSpace (hspaces b hb)) hbytes
      by_cases hstring : ∃ pieces, token = .string pieces
      · obtain ⟨own, rfl⟩ := hstring
        cases htoken with
        | string hown =>
          next inner =>
          rw [List.cons_append, List.append_assoc, ← List.singleton_append] at hfront
          obtain ⟨ds, -, hinner⟩ := Text.Utf8.exists_of_encodeChars_eq_append (by simp) hfront
          obtain ⟨front, behind, -, hname, hbehind⟩ :=
            Text.Utf8.exists_of_encodeChars_eq_append_cons (by decide) hinner
          subst hname hbehind
          rcases List.mem_cons.mp hmem with hsame | hlater
          · obtain rfl := Token.string.inj hsame
            exact ⟨front, hown⟩
          · exact ih hmore hlater
      · obtain ⟨behind, -, hbehind⟩ := Text.Utf8.exists_of_encodeChars_eq_append
          (lt_of_mem_token htoken fun pieces h => hstring ⟨pieces, h⟩) hfront
        subst hbehind
        rcases List.mem_cons.mp hmem with hsame | hlater
        · exact absurd ⟨pieces, hsame.symm⟩ hstring
        · exact ih hmore hlater

/-- The names of an object are among its tokens. -/
theorem string_mem_tokens {members : List (List Piece × Document)}
    {member : List Piece × Document} (h : member ∈ members) :
    .string member.1 ∈ (Document.object members).tokens := by
  obtain ⟨first, more, rfl⟩ := List.exists_cons_of_ne_nil (List.ne_nil_of_mem h)
  have hname (member : List Piece × Document) :
      .string member.1 ∈ Document.memberTokens member := List.mem_cons_self
  rw [Document.tokens_object_cons]
  refine List.mem_cons_of_mem _ ?_
  rcases List.mem_cons.mp h with rfl | hmore
  · exact List.mem_append_left _ (hname _)
  · have hin : Token.string member.1 ∈
        more.flatMap (fun member => Token.comma :: Document.memberTokens member) :=
      List.mem_flatMap.mpr ⟨member, hmore, List.mem_cons_of_mem _ (hname member)⟩
    exact List.mem_append_right _ (List.mem_append_left _ hin)

/-- The names of an object within a text stand for texts if and only if their surrogates come in
pairs. -/
theorem isSome_text?_name_iff {members : List (List Piece × Document)} {text : String}
    (h : (Document.object members).SpelledBy (Text.Utf8.encode text))
    {member : List Piece × Document} (hmember : member ∈ members) :
    (text? member.1).isSome = true ↔ Piece.PairUp member.1 := by
  obtain ⟨ds, hds⟩ := exists_of_string_mem h (string_mem_tokens hmember)
  exact isSome_text?_iff hds

end ToolGateway.Json
