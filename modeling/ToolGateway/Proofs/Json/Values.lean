import ToolGateway.Json.Record
import ToolGateway.Proofs.Json.Writing
import ToolGateway.Proofs.Table.Insertion

/-!
# Values and their texts

A value is exact if it has no doubles, whole numbers that fit into 64 bits and members in order. A
document denotes a value if its strings, numbers and members stand for those of the value; no name
may occur twice, and minus zero denotes nothing. Members may come in any order and characters may be
escaped or not, so one value has many texts.

Every text of an exact value is read as that value, if it is not nested too deeply
(`parse?_of_denotes`), and the text as which it is printed is one of them (`parse?_render`).
-/

namespace ToolGateway.Json

open Text.Utf8 (encodeChars)

/-! ## Strings -/

/-- Pieces stand for characters, each for itself in UTF-8, by its escape, or in UTF-16. -/
inductive Piece.ListDenotes : List Piece → List Char → Prop
  | nil : ListDenotes [] []
  | bytes (c : Char) {pieces : List Piece} {cs : List Char} (h : ListDenotes pieces cs) :
    ListDenotes ((String.utf8EncodeChar c).map .byte ++ pieces) (c :: cs)
  | escaped (c : Char) {pieces : List Piece} {cs : List Char} (h : ListDenotes pieces cs) :
    ListDenotes (.escaped c :: pieces) (c :: cs)
  | unit (c : Char) {pieces : List Piece} {cs : List Char} (h : ListDenotes pieces cs) :
    ListDenotes (.unit c.toNat :: pieces) (c :: cs)
  | pair (c : Char) (hc : 0x10000 ≤ c.toNat) {pieces : List Piece} {cs : List Char}
    (h : ListDenotes pieces cs) :
    ListDenotes (.unit (0xD800 + (c.toNat - 0x10000) / 0x400) ::
      .unit (0xDC00 + (c.toNat - 0x10000) % 0x400) :: pieces) (c :: cs)

/-- The numbers of characters. -/
theorem toNat_cases (c : Char) : c.toNat < 0xD800 ∨ 0xDFFF < c.toNat ∧ c.toNat < 0x110000 := c.valid

/-- A character is no surrogate. -/
theorem not_isSurrogate_toNat (c : Char) : ¬ IsSurrogate c.toNat := by
  rintro ⟨hlow, hhigh⟩
  have hvalid := toNat_cases c
  omega

/-- The two surrogates of a character are read as that character. -/
theorem charOfPair?_of_lt {n : Nat} (hlow : 0x10000 ≤ n) (hhigh : n < 0x110000) :
    charOfPair? (0xD800 + (n - 0x10000) / 0x400) (0xDC00 + (n - 0x10000) % 0x400) =
      some (Char.ofNat n) := by
  have hback : 0x10000 + (0xD800 + (n - 0x10000) / 0x400 - 0xD800) * 0x400 +
      (0xDC00 + (n - 0x10000) % 0x400 - 0xDC00) = n := by
    omega
  have hfirst : 0xD800 ≤ 0xD800 + (n - 0x10000) / 0x400 ∧
      0xD800 + (n - 0x10000) / 0x400 ≤ 0xDBFF := by
    omega
  have hsecond : 0xDC00 ≤ 0xDC00 + (n - 0x10000) % 0x400 ∧
      0xDC00 + (n - 0x10000) % 0x400 ≤ 0xDFFF := by
    omega
  rw [charOfPair?, if_pos ⟨hfirst, hsecond⟩, hback]

/-- The first of them is a surrogate. -/
theorem isSurrogate_of_lt {n : Nat} (hhigh : n < 0x110000) :
    IsSurrogate (0xD800 + (n - 0x10000) / 0x400) :=
  ⟨by omega, by omega⟩

/-- Pieces that stand for characters are decoded to them. -/
theorem bytesOnto_of_denotes {pieces : List Piece} {cs : List Char}
    (h : Piece.ListDenotes pieces cs) (done : Bytes) :
    bytesOnto done pieces = some ((encodeChars cs).reverse ++ done) := by
  have hcons (c : Char) (cs : List Char) (done : Bytes) :
      (encodeChars cs).reverse ++ ((String.utf8EncodeChar c).reverse ++ done) =
        (encodeChars (c :: cs)).reverse ++ done := by
    simp [encodeChars]
  induction h generalizing done with
  | nil => rfl
  | bytes c _ ih => rw [bytesOnto_map_byte, ih, hcons]
  | escaped c _ ih => rw [bytesOnto, ih, hcons]
  | unit c _ ih => rw [bytesOnto_unit (not_isSurrogate_toNat c), Char.ofNat_toNat, ih, hcons]
  | pair c hc _ ih =>
    have hhigh : c.toNat < 0x110000 := by
      have hvalid := toNat_cases c
      omega
    have hpair := charOfPair?_of_lt hc hhigh
    rw [Char.ofNat_toNat] at hpair
    rw [bytesOnto_pair (isSurrogate_of_lt hhigh) hpair, ih, hcons]

/-- So they are read as their text. -/
theorem text?_of_denotes {pieces : List Piece} {s : String}
    (h : Piece.ListDenotes pieces s.toList) : text? pieces = some s := by
  rw [text?, bytesOnto_of_denotes h, Option.bind_some, List.append_nil, List.reverse_reverse]
  exact Text.Utf8.decode?_encode s

/-- The pieces as which a text is printed stand for it. -/
theorem listDenotes_piecesOf (s : String) : Piece.ListDenotes (piecesOf s) s.toList := by
  unfold piecesOf
  induction s.toList with
  | nil => exact .nil
  | cons c cs ih =>
    rw [List.flatMap_cons]
    unfold piecesOfChar
    split
    · exact ih.escaped c
    · split
      · exact ih.unit c
      · exact ih.bytes c

/-- So they are read as it. -/
theorem text?_piecesOf (s : String) : text? (piecesOf s) = some s :=
  text?_of_denotes (listDenotes_piecesOf s)

/-! ## Numbers -/

/-- A whole number is written in digits, behind a minus sign if it is negative. -/
structure Literal.Denotes (literal : Literal) (n : Int) : Prop where
  sign : literal.negative = decide (n < 0)
  digits : natOfDigits literal.whole = n.natAbs
  fraction : literal.fraction = []
  exponent : literal.exponent = none

/-- These are the literals that are read as whole numbers. -/
theorem whole?_eq_some_iff {literal : Literal} {n : Int} :
    literal.whole? = some n ↔ literal.Denotes n := by
  constructor
  · intro h
    unfold Literal.whole? at h
    split at h
    · cases h
    · next hplain =>
      obtain ⟨hfraction, hexponent⟩ := not_or.mp hplain
      refine ⟨?_, ?_, not_not.mp hfraction, not_not.mp hexponent⟩ <;> grind
  · rintro ⟨hsign, hdigits, hfraction, hexponent⟩
    unfold Literal.whole?
    rw [if_neg (by simp [hfraction, hexponent]), hdigits, hsign]
    grind

/-- A whole number is printed as a literal of its own. -/
theorem denotes_literalOf (n : Int) : (literalOf n).Denotes n :=
  ⟨rfl, (digitsOf_spec n.natAbs).2.1, rfl, rfl⟩

/-- A whole number fits into 64 bits, with or without sign. -/
def FitsWord (n : Int) : Prop := -(wordBound / 2 : Nat) ≤ n ∧ n < wordBound

/-- A word does. -/
theorem fitsWord_natCast {n : Nat} (h : n < UInt64.size) : FitsWord n := by
  have hbound : (n : Int) < wordBound := Int.ofNat_lt.mpr h
  exact ⟨by omega, hbound⟩

/-- It is then read as it is. -/
theorem toJson?_of_denotes_integer {literal : Literal} {n : Int} (h : literal.Denotes n)
    (hfits : FitsWord n) : literal.toJson? = some (.integer n) := by
  have hfound : literal.integer? = some n :=
    Option.filter_eq_some_iff.mpr ⟨whole?_eq_some_iff.mpr h, decide_eq_true hfits⟩
  rw [Literal.toJson?, hfound]

/-- A printed natural is read as a word of so many bits if it fits. -/
theorem word?_literalOf {bits n : Nat} (h : n < Nat.pow 2 bits) :
    (Document.number (literalOf n)).word? bits = some n := by
  have hrange : (0 : Int) ≤ n ∧ (n : Int) ≤ (Nat.pow 2 bits - 1 : Nat) := by omega
  rw [Document.word?, Document.integer?, whole?_eq_some_iff.mpr (denotes_literalOf n),
    Option.filter_some, if_pos (decide_eq_true hrange)]
  rfl

/-! ## Values -/

mutual

/-- A value has no doubles, its whole numbers fit into 64 bits, and its members are in order. -/
def IsExact : Json → Prop
  | .null => True
  | .bool _ => True
  | .integer n => FitsWord n
  | .double _ => False
  | .string _ => True
  | .array items => AreExact items
  | .object members => Table.Sorted members ∧ MembersExact members

/-- So are all items. -/
def AreExact : List Json → Prop
  | [] => True
  | item :: items => item.IsExact ∧ AreExact items

/-- And all members. -/
def MembersExact : List (String × Json) → Prop
  | [] => True
  | (_, v) :: members => v.IsExact ∧ MembersExact members

end

mutual

/-- How deep arrays and objects are nested in a value, itself included. -/
def nesting : Json → Nat
  | .array items => nestingOfItems items + 1
  | .object members => nestingOfMembers members + 1
  | _ => 0

/-- How deep they are nested in items. -/
def nestingOfItems : List Json → Nat
  | [] => 0
  | item :: items => max item.nesting (nestingOfItems items)

/-- And in members. -/
def nestingOfMembers : List (String × Json) → Nat
  | [] => 0
  | (_, v) :: members => max v.nesting (nestingOfMembers members)

end

/-- An exact value that is nested to no more than some depth. -/
structure Fits (depth : Nat) (v : Json) : Prop where
  exact : v.IsExact
  nesting : v.nesting ≤ depth

/-- It may be nested deeper. -/
theorem Fits.mono {depth deeper : Nat} {v : Json} (h : Fits depth v) (hle : depth ≤ deeper) :
    Fits deeper v :=
  ⟨h.exact, Nat.le_trans h.nesting hle⟩

/-- The items of an array fit into what is left of the depth. -/
theorem fits_array_iff {depth : Nat} {items : List Json} :
    Fits (depth + 1) (.array items) ↔ ∀ item ∈ items, Fits depth item := by
  have hitems : AreExact items ∧ nestingOfItems items ≤ depth ↔ ∀ item ∈ items, Fits depth item := by
    induction items with
    | nil => simp [AreExact, nestingOfItems]
    | cons item items ih =>
      rw [List.forall_mem_cons, ← ih, AreExact, nestingOfItems, Nat.max_le]
      constructor
      · rintro ⟨⟨hitem, hitems⟩, hdepth, hmore⟩
        exact ⟨⟨hitem, hdepth⟩, hitems, hmore⟩
      · rintro ⟨⟨hitem, hdepth⟩, hitems, hmore⟩
        exact ⟨⟨hitem, hitems⟩, hdepth, hmore⟩
  rw [← hitems]
  constructor
  · rintro ⟨hexact, hdepth⟩
    exact ⟨hexact, Nat.le_of_succ_le_succ hdepth⟩
  · rintro ⟨hexact, hdepth⟩
    exact ⟨hexact, Nat.succ_le_succ hdepth⟩

/-- The members of an object do, and they are in order. -/
theorem fits_object_iff {depth : Nat} {members : List (String × Json)} :
    Fits (depth + 1) (.object members) ↔
      Table.Sorted members ∧ ∀ member ∈ members, Fits depth member.2 := by
  have hmembers : MembersExact members ∧ nestingOfMembers members ≤ depth ↔
      ∀ member ∈ members, Fits depth member.2 := by
    induction members with
    | nil => simp [MembersExact, nestingOfMembers]
    | cons member members ih =>
      rw [List.forall_mem_cons, ← ih, MembersExact, nestingOfMembers, Nat.max_le]
      constructor
      · rintro ⟨⟨hvalue, hmembers⟩, hdepth, hmore⟩
        exact ⟨⟨hvalue, hdepth⟩, hmembers, hmore⟩
      · rintro ⟨⟨hvalue, hdepth⟩, hmembers, hmore⟩
        exact ⟨⟨hvalue, hmembers⟩, hdepth, hmore⟩
  rw [← hmembers]
  constructor
  · rintro ⟨⟨hsorted, hexact⟩, hdepth⟩
    exact ⟨hsorted, hexact, Nat.le_of_succ_le_succ hdepth⟩
  · rintro ⟨hsorted, hexact, hdepth⟩
    exact ⟨⟨hsorted, hexact⟩, Nat.succ_le_succ hdepth⟩

/-! ## Documents -/

/-- No two bindings have the same key. -/
def DistinctNames (named : List (String × Json)) : Prop :=
  named.Pairwise fun member member' => member.1 ≠ member'.1

mutual

/-- A document stands for a value. The members of an object may come in any order, but each name
once. -/
inductive Document.Denotes : Document → Json → Prop
  | null : Denotes .null .null
  | bool (b : Bool) : Denotes (.bool b) (.bool b)
  | number {literal : Literal} {n : Int} (h : literal.Denotes n) :
    Denotes (.number literal) (.integer n)
  | string {pieces : List Piece} {s : String} (h : Piece.ListDenotes pieces s.toList) :
    Denotes (.string pieces) (.string s)
  | array {items : List Document} {values : List Json} (h : Document.ListDenotes items values) :
    Denotes (.array items) (.array values)
  | object {members : List (List Piece × Document)} {named table : List (String × Json)}
    (h : Document.MembersDenote members named) (hdistinct : DistinctNames named)
    (hperm : table.Perm named) : Denotes (.object members) (.object table)

/-- Items stand for values, one for each. -/
inductive Document.ListDenotes : List Document → List Json → Prop
  | nil : ListDenotes [] []
  | cons {d : Document} {v : Json} {items : List Document} {values : List Json}
    (h : Document.Denotes d v) (hmore : ListDenotes items values) :
    ListDenotes (d :: items) (v :: values)

/-- Members stand for bindings, in the same order. -/
inductive Document.MembersDenote : List (List Piece × Document) → List (String × Json) → Prop
  | nil : MembersDenote [] []
  | cons {name : List Piece} {key : String} {d : Document} {v : Json}
    {members : List (List Piece × Document)} {named : List (String × Json)}
    (hname : Piece.ListDenotes name key.toList) (h : Document.Denotes d v)
    (hmore : MembersDenote members named) : MembersDenote ((name, d) :: members) ((key, v) :: named)

end

mutual

/-- A document that stands for a value is read as that value. -/
theorem toJson?_of_denotes {d : Document} {v : Json} {depth : Nat} (h : d.Denotes v)
    (hfits : Fits depth v) : d.toJson? depth = some v := by
  match h with
  | .null => rfl
  | .bool b => rfl
  | .number h => exact toJson?_of_denotes_integer h hfits.exact
  | .string h => rw [Document.toJson?, text?_of_denotes h, Option.map_some]
  | .array h =>
    cases depth with
    | zero => exact absurd hfits.nesting (Nat.not_succ_le_zero _)
    | succ depth =>
      rw [Document.toJson?, itemsOnto_of_denotes h (fits_array_iff.mp hfits) []]
      simp
  | .object h hdistinct hperm =>
    cases depth with
    | zero => exact absurd hfits.nesting (Nat.not_succ_le_zero _)
    | succ depth =>
      obtain ⟨hsorted, hvalues⟩ := fits_object_iff.mp hfits
      have hnamed := fun member hmember => hvalues member (hperm.mem_iff.mpr hmember)
      -- Distinct names make the same table in any order, and the one of the value is in order.
      rw [Document.toJson?, membersOnto_of_denotes h hnamed [], Option.map_some,
        Table.insertAll_eq_of_perm hdistinct hsorted hperm]

/-- Items are read one after the other. -/
theorem itemsOnto_of_denotes {items : List Document} {values : List Json} {depth : Nat}
    (h : Document.ListDenotes items values) (hfits : ∀ v ∈ values, Fits depth v)
    (done : List Json) : itemsOnto depth done items = some (values.reverse ++ done) := by
  match h with
  | .nil => rfl
  | .cons h hmore =>
    obtain ⟨hvalue, hvalues⟩ := List.forall_mem_cons.mp hfits
    rw [itemsOnto, toJson?_of_denotes h hvalue]
    dsimp only
    rw [itemsOnto_of_denotes hmore hvalues]
    simp

/-- Members are bound one after the other. -/
theorem membersOnto_of_denotes {members : List (List Piece × Document)}
    {named : List (String × Json)} {depth : Nat} (h : Document.MembersDenote members named)
    (hfits : ∀ member ∈ named, Fits depth member.2) (done : Table Json) :
    membersOnto depth done members = some (done.insertAll named) := by
  match h with
  | .nil => rfl
  | .cons hname h hmore =>
    obtain ⟨hvalue, hvalues⟩ := List.forall_mem_cons.mp hfits
    rw [membersOnto, text?_of_denotes hname, toJson?_of_denotes h hvalue]
    exact membersOnto_of_denotes hmore hvalues _

end

mutual

/-- An exact value is printed as a document that stands for it. -/
theorem exists_document? (v : Json) (h : v.IsExact) :
    ∃ d, v.document? = some d ∧ d.Denotes v := by
  match v with
  | .null => exact ⟨_, rfl, .null⟩
  | .bool b => exact ⟨_, rfl, .bool b⟩
  | .integer n => exact ⟨_, rfl, .number (denotes_literalOf n)⟩
  | .double x => exact h.elim
  | .string s => exact ⟨_, rfl, .string (listDenotes_piecesOf s)⟩
  | .array items =>
    obtain ⟨documents, hprinted, hdenote⟩ := exists_documentsOfItems? items h
    exact ⟨_, by rw [document?, hprinted, Option.map_some], .array hdenote⟩
  | .object members =>
    obtain ⟨documents, hprinted, hdenote⟩ := exists_documentsOfMembers? members h.2
    have hdistinct : DistinctNames members :=
      h.1.imp fun {a b} hlt heq => absurd (heq ▸ hlt) (String.lt_irrefl b.1)
    exact ⟨_, by rw [document?, hprinted, Option.map_some],
      .object hdenote hdistinct (List.Perm.refl _)⟩

/-- So are items. -/
theorem exists_documentsOfItems? (items : List Json) (h : AreExact items) :
    ∃ documents, documentsOfItems? items = some documents ∧
      Document.ListDenotes documents items := by
  match items with
  | [] => exact ⟨[], rfl, .nil⟩
  | item :: items =>
    obtain ⟨first, hfirst, hitem⟩ := exists_document? item h.1
    obtain ⟨documents, hprinted, hdenote⟩ := exists_documentsOfItems? items h.2
    exact ⟨first :: documents, by simp [documentsOfItems?, hfirst, hprinted], .cons hitem hdenote⟩

/-- And members. -/
theorem exists_documentsOfMembers? (members : List (String × Json)) (h : MembersExact members) :
    ∃ documents, documentsOfMembers? members = some documents ∧
      Document.MembersDenote documents members := by
  match members with
  | [] => exact ⟨[], rfl, .nil⟩
  | (key, v) :: members =>
    obtain ⟨first, hfirst, hvalue⟩ := exists_document? v h.1
    obtain ⟨documents, hprinted, hdenote⟩ := exists_documentsOfMembers? members h.2
    exact ⟨(piecesOf key, first) :: documents, by simp [documentsOfMembers?, hfirst, hprinted],
      .cons (listDenotes_piecesOf key) hvalue hdenote⟩

end

/-! ## Texts -/

/-- Every text of a value is read as that value. -/
theorem parse?_of_denotes {d : Document} {v : Json} {bytes : Bytes} (h : d.SpelledBy bytes)
    (hdenotes : d.Denotes v) (hfits : Fits maxDepth v) : parse? bytes = some v := by
  rw [parse?, Document.parse?_eq_some_iff.mpr h, Option.bind_some,
    toJson?_of_denotes hdenotes hfits]

/-- What is printed of a value is read as that value. -/
theorem parse?_render {v : Json} (hfits : Fits maxDepth v) :
    parse? (Text.Utf8.encode v.render) = some v := by
  obtain ⟨d, hprinted, hdenotes⟩ := exists_document? v hfits.exact
  exact parse?_of_denotes (spelledBy_render hprinted) hdenotes hfits

/-- Members are exact if their values are. -/
theorem membersExact_of_forall {members : List (String × Json)}
    (h : ∀ member ∈ members, member.2.IsExact) : MembersExact members := by
  induction members with
  | nil => trivial
  | cons member members ih =>
    obtain ⟨hvalue, hmembers⟩ := List.forall_mem_cons.mp h
    exact ⟨hvalue, ih hmembers⟩

/-- What is printed of an object whose members are in some order is read with its members in
order. -/
theorem parse?_render_object {members table : List (String × Json)}
    (hdistinct : DistinctNames members) (hperm : table.Perm members)
    (hfits : Fits maxDepth (.object table)) :
    parse? (Text.Utf8.encode (object members).render) = some (.object table) := by
  have hvalues := (fits_object_iff.mp hfits).2
  have hexact : ∀ member ∈ members, member.2.IsExact := fun member hmember =>
    (hvalues member (hperm.mem_iff.mpr hmember)).exact
  obtain ⟨documents, hprinted, hdenote⟩ :=
    exists_documentsOfMembers? members (membersExact_of_forall hexact)
  have hdocument : (object members).document? = some (.object documents) := by
    rw [document?, hprinted, Option.map_some]
  exact parse?_of_denotes (spelledBy_render hdocument) (.object hdenote hdistinct hperm) hfits

/-! ## Records -/

/-- Members as they are printed. -/
def printedMembers (named : List (String × Document)) : List (List Piece × Document) :=
  named.map fun member => (piecesOf member.1, member.2)

/-- Printed members are read as a record of their names. -/
theorem record?_printedMembers {depth : Nat} (hdepth : depth ≠ 0) (names : List String)
    (named : List (String × Document)) :
    (Document.object (printedMembers named)).record? depth names =
      Record.ofMembers? names named := by
  have hnamed : ((printedMembers named).mapM fun member =>
      (text? member.1).map (·, member.2)) = some named := by
    induction named with
    | nil => rfl
    | cons member named ih =>
      unfold printedMembers at ih ⊢
      simp [List.mapM_cons, text?_piecesOf, ih]
  rw [Document.record?, if_neg hdepth]
  exact congrArg (Option.bind · (Record.ofMembers? names)) hnamed

end ToolGateway.Json
