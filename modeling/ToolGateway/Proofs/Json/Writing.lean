import Mathlib.Tactic.SplitIfs
import ToolGateway.Json.Printer
import ToolGateway.Proofs.Json.Names
import ToolGateway.Proofs.Text.Digits

/-!
# Printed values are JSON

A value without doubles is printed as the text of one document, in which whole numbers are written
in digits alone and members stand in the order in which they are listed. No string is lost: what is
printed of it stands for it again. A printed value has no control characters, so it is one line.

Main statement: `spelledBy_render`.
-/

namespace ToolGateway.Json

open Text.Utf8 (encodeChars)

/-! ## Strings -/

/-- The characters that are escaped by one letter. -/
def HasLetter (c : Char) : Prop :=
  c = '"' ∨ c = '\\' ∨ c = '\n' ∨ c = '\r' ∨ c = '\t' ∨ c = '\x08' ∨ c = '\x0c'

instance (c : Char) : Decidable (HasLetter c) := inferInstanceAs (Decidable (_ ∨ _))

/-- The pieces as which a character is printed. -/
def piecesOfChar (c : Char) : List Piece :=
  if HasLetter c then [.escaped c]
  else if c.toNat < 0x20 then [.unit c.toNat]
  else (String.utf8EncodeChar c).map .byte

/-- The pieces as which a text is printed. -/
def piecesOf (s : String) : List Piece := s.toList.flatMap piecesOfChar

/-- Pieces are spelled one list after the other. -/
theorem Piece.ListSpelledBy.append {pieces more : List Piece} {bytes behind : Bytes}
    (h : ListSpelledBy pieces bytes) (hmore : ListSpelledBy more behind) :
    ListSpelledBy (pieces ++ more) (bytes ++ behind) := by
  induction h with
  | nil => exact hmore
  | cons hpiece _ ih =>
    rw [List.append_assoc]
    exact .cons hpiece ih

/-- A single piece has its own spelling. -/
theorem Piece.SpelledBy.singleton {piece : Piece} {bytes : Bytes} (h : piece.SpelledBy bytes) :
    ListSpelledBy [piece] bytes := by
  simpa using ListSpelledBy.cons h .nil

/-- Bytes that are no delimiters and no control characters stand for themselves. -/
theorem listSpelledBy_map_byte {bytes : Bytes}
    (h : ∀ b ∈ bytes, 0x20 ≤ b ∧ b ≠ 0x22 ∧ b ≠ 0x5C) :
    Piece.ListSpelledBy (bytes.map .byte) bytes := by
  induction bytes with
  | nil => exact .nil
  | cons b bytes ih =>
    obtain ⟨⟨hcontrol, hquote, hbackslash⟩, hmore⟩ := List.forall_mem_cons.mp h
    exact .cons (.byte hcontrol hquote hbackslash) (ih hmore)

/-- The bytes of a character that need not be escaped are such bytes. -/
theorem plain_of_mem_utf8EncodeChar {c : Char} (hquote : c ≠ '"') (hbackslash : c ≠ '\\')
    (hcontrol : 0x20 ≤ c.toNat) {b : UInt8} (hb : b ∈ String.utf8EncodeChar c) :
    0x20 ≤ b ∧ b ≠ 0x22 ∧ b ≠ 0x5C := by
  rcases Text.Utf8.utf8EncodeChar_cases c with ⟨b', hc, hone⟩ | hbeyond
  · rw [hone, List.mem_singleton] at hb
    subst hb
    refine ⟨?_, ?_, ?_⟩
    · rwa [hc, Text.Utf8.toNat_ofNat] at hcontrol
    · rintro rfl
      exact hquote hc
    · rintro rfl
      exact hbackslash hc
  · have hb := hbeyond b hb
    refine ⟨UInt8.le_trans (by decide) hb, ?_, ?_⟩
    · rintro rfl
      exact absurd hb (by decide)
    · rintro rfl
      exact absurd hb (by decide)

/-- The escape of a control character by its number. -/
theorem spelledBy_unit : ∀ n < 0x20, unit? 0x30 0x30 (UInt8.ofNat (Text.lowerHexDigit (n / 16)).toNat)
      (UInt8.ofNat (Text.lowerHexDigit (n % 16)).toNat) = some n ∧
    encodeChars ['\\', 'u', '0', '0', Text.lowerHexDigit (n / 16), Text.lowerHexDigit (n % 16)] =
      [0x5C, 0x75, 0x30, 0x30, UInt8.ofNat (Text.lowerHexDigit (n / 16)).toNat,
        UInt8.ofNat (Text.lowerHexDigit (n % 16)).toNat] := by
  decide

/-- A character is printed as its pieces. -/
theorem listSpelledBy_escape (c : Char) :
    Piece.ListSpelledBy (piecesOfChar c) (encodeChars (escape c)) := by
  unfold piecesOfChar
  split
  · next hletter =>
    apply Piece.SpelledBy.singleton
    rcases hletter with rfl | rfl | rfl | rfl | rfl | rfl | rfl
    · exact .escaped (e := 0x22) rfl
    · exact .escaped (e := 0x5C) rfl
    · exact .escaped (e := 0x6E) rfl
    · exact .escaped (e := 0x72) rfl
    · exact .escaped (e := 0x74) rfl
    · exact .escaped (e := 0x62) rfl
    · exact .escaped (e := 0x66) rfl
  · next hletter =>
    simp only [HasLetter, not_or] at hletter
    obtain ⟨hquote, hbackslash, hfeed, hreturn, htab, hback, hform⟩ := hletter
    have hescape : escape c = if c.toNat < 0x20 then
        ['\\', 'u', '0', '0', Text.lowerHexDigit (c.toNat / 16), Text.lowerHexDigit (c.toNat % 16)]
        else [c] := by
      simp only [escape, hquote, hbackslash, hfeed, hreturn, htab, hback, hform, if_false]
    rw [hescape]
    split
    · next hcontrol =>
      obtain ⟨hunit, hbytes⟩ := spelledBy_unit c.toNat hcontrol
      rw [hbytes]
      exact Piece.SpelledBy.singleton (.unit hunit)
    · next hcontrol =>
      rw [encodeChars, List.flatMap_singleton]
      exact listSpelledBy_map_byte fun b hb =>
        plain_of_mem_utf8EncodeChar hquote hbackslash (Nat.not_lt.mp hcontrol) hb

/-- So is a text. -/
theorem listSpelledBy_piecesOf (s : String) :
    Piece.ListSpelledBy (piecesOf s) (encodeChars (s.toList.flatMap escape)) := by
  unfold piecesOf
  induction s.toList with
  | nil => exact .nil
  | cons c cs ih =>
    rw [List.flatMap_cons, List.flatMap_cons, encodeChars, List.flatMap_append]
    exact (listSpelledBy_escape c).append ih

/-! ## Numbers -/

/-- The digits as which a natural number is printed. -/
def digitsOf (n : Nat) : List Nat := (Nat.toDigits 10 n).map fun c => c.toNat - 0x30

/-- The literal as which a whole number is printed. -/
def literalOf (n : Int) : Literal := ⟨n < 0, digitsOf n.natAbs, [], none⟩

/-- The digits of a number are whole and stand for it, and their codes are printed. -/
theorem digitsOf_spec (n : Nat) :
    AreWhole (digitsOf n) ∧ natOfDigits (digitsOf n) = n ∧
      encodeChars (Nat.toDigits 10 n) = (digitsOf n).map digitCode := by
  obtain ⟨digits, hdigits, hall, hzero, hvalue⟩ := Text.exists_digits 10 (by decide) n
  have hback : digitsOf n = digits := by
    rw [digitsOf, hdigits, List.map_map]
    calc digits.map _ = digits.map id := List.map_congr_left fun d hd =>
          (by decide : ∀ d < 10, (Nat.digitChar d).toNat - 0x30 = d) d (hall d hd)
      _ = digits := List.map_id digits
  have hne : digits ≠ [] := fun h => Nat.toDigits_ne_nil (hdigits.trans (by rw [h]; rfl))
  have hascii : ∀ c ∈ digits.map Nat.digitChar, c.toNat < 0x80 := by
    intro c hc
    obtain ⟨d, hd, rfl⟩ := List.mem_map.mp hc
    exact (by decide : ∀ d < 10, (Nat.digitChar d).toNat < 0x80) d (hall d hd)
  rw [hback]
  refine ⟨⟨hall, hne, hzero⟩, hvalue, ?_⟩
  rw [hdigits, Text.Utf8.encodeChars_of_ascii hascii, List.map_map]
  exact List.map_congr_left fun d hd =>
    (by decide : ∀ d < 10, UInt8.ofNat (Nat.digitChar d).toNat = digitCode d) d (hall d hd)

/-- A whole number is printed as its literal. -/
theorem spelledBy_integerDigits (n : Int) :
    (literalOf n).SpelledBy (encodeChars (integerDigits n)) := by
  obtain ⟨hwhole, -, hbytes⟩ := digitsOf_spec n.natAbs
  refine ⟨hwhole, by simp [literalOf, AreDigits], [], .none, ?_⟩
  have hrepr : (Nat.repr n.natAbs).toList = Nat.toDigits 10 n.natAbs := String.toList_ofList
  have hsign (cs : List Char) : encodeChars ('-' :: cs) = 0x2D :: encodeChars cs := rfl
  unfold integerDigits literalOf
  rw [hrepr]
  split
  · next hneg => rw [hsign, hbytes]; simp [hneg, signBytes, fractionBytes]
  · next hpos => rw [hbytes]; simp [hpos, signBytes, fractionBytes]

/-! ## Values -/

mutual

/-- The document as which a value is printed. Doubles are left out. -/
def document? : Json → Option Document
  | .null => some .null
  | .bool b => some (.bool b)
  | .integer n => some (.number (literalOf n))
  | .double _ => none
  | .string s => some (.string (piecesOf s))
  | .array items => (documentsOfItems? items).map .array
  | .object members => (documentsOfMembers? members).map .object

/-- The documents of items. -/
def documentsOfItems? : List Json → Option (List Document)
  | [] => some []
  | item :: items => do return (← item.document?) :: (← documentsOfItems? items)

/-- The documents of members, with their names. -/
def documentsOfMembers? : List (String × Json) → Option (List (List Piece × Document))
  | [] => some []
  | (name, v) :: members => do
    return (piecesOf name, ← v.document?) :: (← documentsOfMembers? members)

end

/-- The documents of items are one for each. -/
theorem of_documentsOfItems?_cons {item : Json} {items : List Json} {ds : List Document}
    (h : documentsOfItems? (item :: items) = some ds) :
    ∃ d rest, item.document? = some d ∧ documentsOfItems? items = some rest ∧ ds = d :: rest := by
  obtain ⟨d, hd, h⟩ := Option.bind_eq_some_iff.mp h
  obtain ⟨rest, hrest, h⟩ := Option.bind_eq_some_iff.mp h
  exact ⟨d, rest, hd, hrest, (Option.some.inj h).symm⟩

/-- So are those of members. -/
theorem of_documentsOfMembers?_cons {name : String} {v : Json} {members : List (String × Json)}
    {ds : List (List Piece × Document)} (h : documentsOfMembers? ((name, v) :: members) = some ds) :
    ∃ d rest, v.document? = some d ∧ documentsOfMembers? members = some rest ∧
      ds = (piecesOf name, d) :: rest := by
  obtain ⟨d, hd, h⟩ := Option.bind_eq_some_iff.mp h
  obtain ⟨rest, hrest, h⟩ := Option.bind_eq_some_iff.mp h
  exact ⟨d, rest, hd, hrest, (Option.some.inj h).symm⟩

/-! ## Lines -/

/-- No character is a control character. -/
def NoControl (cs : List Char) : Prop := ∀ c ∈ cs, 0x20 ≤ c.toNat

theorem NoControl.append {cs ds : List Char} (hcs : NoControl cs) (hds : NoControl ds) :
    NoControl (cs ++ ds) := by
  intro c hc
  exact (List.mem_append.mp hc).elim (hcs c) (hds c)

/-- Control characters are escaped. -/
theorem noControl_escape (c : Char) : NoControl (escape c) := by
  have hdigits : c.toNat < 0x20 → 0x20 ≤ (Text.lowerHexDigit (c.toNat / 16)).toNat ∧
      0x20 ≤ (Text.lowerHexDigit (c.toNat % 16)).toNat :=
    (by decide : ∀ n < 0x20, 0x20 ≤ (Text.lowerHexDigit (n / 16)).toNat ∧
      0x20 ≤ (Text.lowerHexDigit (n % 16)).toNat) c.toNat
  unfold escape
  split_ifs <;> simp_all [NoControl]

/-- So strings have none. -/
theorem noControl_quoted (s : String) : NoControl (quoted s) := by
  have hquote : NoControl ['"'] := by simp [NoControl]
  have hinner : NoControl (s.toList.flatMap escape) := by
    intro c hc
    obtain ⟨written, -, hc⟩ := List.mem_flatMap.mp hc
    exact noControl_escape written c hc
  exact (hquote.append hinner).append hquote

/-- Nor have whole numbers. -/
theorem noControl_integerDigits (n : Int) : NoControl (integerDigits n) := by
  have hrepr : NoControl (Nat.repr n.natAbs).toList := by
    obtain ⟨digits, hdigits, hall, -⟩ := Text.exists_digits 10 (by decide) n.natAbs
    intro c hc
    rw [show (Nat.repr n.natAbs).toList = _ from String.toList_ofList, hdigits] at hc
    obtain ⟨d, hd, rfl⟩ := List.mem_map.mp hc
    exact (by decide : ∀ d < 10, 0x20 ≤ (Nat.digitChar d).toNat) d (hall d hd)
  have hsign : NoControl ['-'] := by simp [NoControl]
  unfold integerDigits
  split
  · exact hsign.append hrepr
  · exact hrepr

/-! ## Texts -/

/-- Tokens are spelled one list after the other. -/
theorem Token.ListSpelledBy.append {tokens more : List Token} {bytes behind : Bytes}
    (h : ListSpelledBy tokens bytes) (hmore : ListSpelledBy more behind) :
    ListSpelledBy (tokens ++ more) (bytes ++ behind) := by
  induction h with
  | nil hspaces => exact hmore.spaces hspaces
  | cons hspaces htoken _ ih =>
    rw [List.append_assoc, List.append_assoc]
    exact .cons hspaces htoken ih

/-- Characters spell tokens, on one line. -/
structure Prints (cs : List Char) (tokens : List Token) : Prop where
  spelled : Token.ListSpelledBy tokens (encodeChars cs)
  noControl : NoControl cs

namespace Prints

theorem nil : Prints [] [] := ⟨.nil (List.forall_mem_nil _), List.forall_mem_nil _⟩

theorem append {cs ds : List Char} {tokens more : List Token} (h : Prints cs tokens)
    (hmore : Prints ds more) : Prints (cs ++ ds) (tokens ++ more) := by
  refine ⟨?_, h.noControl.append hmore.noControl⟩
  rw [encodeChars, List.flatMap_append]
  exact h.spelled.append hmore.spelled

/-- A token is printed by any of its spellings. -/
theorem token {token : Token} {cs : List Char} (h : token.SpelledBy (encodeChars cs))
    (hline : NoControl cs) : Prints cs [token] := by
  refine ⟨?_, hline⟩
  have hnil : AreSpaces [] := List.forall_mem_nil _
  simpa using Token.ListSpelledBy.cons hnil h (.nil hnil)

theorem openArray : Prints ['['] [.openArray] := token .openArray (by simp [NoControl])

theorem closeArray : Prints [']'] [.closeArray] := token .closeArray (by simp [NoControl])

theorem openObject : Prints ['\x7b'] [.openObject] := token .openObject (by simp [NoControl])

theorem closeObject : Prints ['\x7d'] [.closeObject] := token .closeObject (by simp [NoControl])

theorem comma : Prints [','] [.comma] := token .comma (by simp [NoControl])

theorem colon : Prints [':'] [.colon] := token .colon (by simp [NoControl])

/-- A string is printed as its pieces. -/
theorem quoted (s : String) : Prints (quoted s) [.string (piecesOf s)] := by
  refine token ?_ (noControl_quoted s)
  have hbytes : encodeChars (Json.quoted s) =
      0x22 :: (encodeChars (s.toList.flatMap escape) ++ [0x22]) := by
    rw [Json.quoted, encodeChars, List.flatMap_append, List.flatMap_cons]
    rfl
  rw [hbytes]
  exact .string (listSpelledBy_piecesOf s)

/-- A member is printed as its name, a colon and its value. -/
theorem member {name : String} {d : Document} {cs : List Char} (h : Prints cs d.tokens) :
    Prints (Json.quoted name ++ ':' :: cs) (Document.memberTokens (piecesOf name, d)) :=
  (quoted name).append (colon.append h)

end Prints

mutual

/-- A value is printed as its document. -/
theorem exists_prints (v : Json) {d : Document} (h : v.document? = some d) (done : List Char) :
    ∃ cs, v.writeOnto done = cs.reverse ++ done ∧ Prints cs d.tokens := by
  match v with
  | .null =>
    obtain rfl := Option.some.inj h
    exact ⟨"null".toList, rfl, .token .null (by simp [NoControl])⟩
  | .bool true =>
    obtain rfl := Option.some.inj h
    exact ⟨"true".toList, rfl, .token .true (by simp [NoControl])⟩
  | .bool false =>
    obtain rfl := Option.some.inj h
    exact ⟨"false".toList, rfl, .token .false (by simp [NoControl])⟩
  | .integer n =>
    obtain rfl := Option.some.inj h
    exact ⟨integerDigits n, rfl,
      .token (.number (spelledBy_integerDigits n)) (noControl_integerDigits n)⟩
  | .string s =>
    obtain rfl := Option.some.inj h
    exact ⟨quoted s, rfl, .quoted s⟩
  | .array [] =>
    obtain rfl := Option.some.inj h
    exact ⟨['[', ']'], rfl, Prints.openArray.append .closeArray⟩
  | .object [] =>
    obtain rfl := Option.some.inj h
    exact ⟨['\x7b', '\x7d'], rfl, Prints.openObject.append .closeObject⟩
  | .array (item :: items) =>
    obtain ⟨documents, hdocuments, rfl⟩ := Option.map_eq_some_iff.mp h
    obtain ⟨first, rest, hfirst, hrest, rfl⟩ := of_documentsOfItems?_cons hdocuments
    -- The text grows backwards: what an item finds before it ends with the bracket.
    obtain ⟨cs, hcs, hitem⟩ := exists_prints item hfirst ('[' :: done)
    obtain ⟨ds, hds, hitems⟩ := exists_printsItems items hrest (item.writeOnto ('[' :: done))
    refine ⟨'[' :: (cs ++ (ds ++ [']'])), ?_, ?_⟩
    · rw [writeOnto, hds, hcs]
      simp
    · rw [Document.tokens_array_cons]
      exact Prints.openArray.append (hitem.append (hitems.append .closeArray))
  | .object ((name, v) :: members) =>
    obtain ⟨documents, hdocuments, rfl⟩ := Option.map_eq_some_iff.mp h
    obtain ⟨first, rest, hfirst, hrest, rfl⟩ := of_documentsOfMembers?_cons hdocuments
    let opened := ':' :: ((quoted name).reverse ++ '\x7b' :: done)
    obtain ⟨cs, hcs, hvalue⟩ := exists_prints v hfirst opened
    obtain ⟨ds, hds, hmembers⟩ := exists_printsMembers members hrest (v.writeOnto opened)
    refine ⟨'\x7b' :: ((quoted name ++ ':' :: cs) ++ (ds ++ ['\x7d'])), ?_, ?_⟩
    · rw [writeOnto, hds, hcs]
      simp [opened]
    · rw [Document.tokens_object_cons]
      exact Prints.openObject.append (hvalue.member.append (hmembers.append .closeObject))

/-- Further items are. -/
theorem exists_printsItems (items : List Json) {ds : List Document}
    (h : documentsOfItems? items = some ds) (done : List Char) :
    ∃ cs, writeItemsOnto done items = cs.reverse ++ done ∧
      Prints cs (ds.flatMap fun item => .comma :: item.tokens) := by
  match items with
  | [] =>
    obtain rfl := Option.some.inj h
    exact ⟨[], rfl, .nil⟩
  | item :: items =>
    obtain ⟨first, rest, hfirst, hrest, rfl⟩ := of_documentsOfItems?_cons h
    obtain ⟨cs, hcs, hitem⟩ := exists_prints item hfirst (',' :: done)
    obtain ⟨ds, hds, hitems⟩ := exists_printsItems items hrest (item.writeOnto (',' :: done))
    refine ⟨',' :: (cs ++ ds), ?_, Prints.comma.append (hitem.append hitems)⟩
    rw [writeItemsOnto, hds, hcs]
    simp

/-- And further members. -/
theorem exists_printsMembers (members : List (String × Json))
    {ds : List (List Piece × Document)} (h : documentsOfMembers? members = some ds)
    (done : List Char) :
    ∃ cs, writeMembersOnto done members = cs.reverse ++ done ∧
      Prints cs (ds.flatMap fun member => .comma :: Document.memberTokens member) := by
  match members with
  | [] =>
    obtain rfl := Option.some.inj h
    exact ⟨[], rfl, .nil⟩
  | (name, v) :: members =>
    obtain ⟨first, rest, hfirst, hrest, rfl⟩ := of_documentsOfMembers?_cons h
    let named := ':' :: ((quoted name).reverse ++ ',' :: done)
    obtain ⟨cs, hcs, hvalue⟩ := exists_prints v hfirst named
    obtain ⟨ds, hds, hmembers⟩ := exists_printsMembers members hrest (v.writeOnto named)
    refine ⟨',' :: ((quoted name ++ ':' :: cs) ++ ds), ?_,
      Prints.comma.append (hvalue.member.append hmembers)⟩
    rw [writeMembersOnto, hds, hcs]
    simp [named]

end

/-- The text of a value is spelled by its document, on one line. -/
theorem prints_chars {v : Json} {d : Document} (h : v.document? = some d) :
    Prints v.chars d.tokens := by
  obtain ⟨cs, hcs, hprints⟩ := exists_prints v h []
  rwa [chars, hcs, List.append_nil, List.reverse_reverse]

/-- The text of a value is spelled by its document. -/
theorem spelledBy_render {v : Json} {d : Document} (h : v.document? = some d) :
    d.SpelledBy (Text.Utf8.encode v.render) := by
  rw [Text.Utf8.encode, render, String.toList_ofList]
  exact (prints_chars h).spelled

end ToolGateway.Json
