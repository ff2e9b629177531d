import ToolGateway.Json.Basic
import ToolGateway.Json.Document
import ToolGateway.Text.Utf8
import ToolGateway.Table

/-!
# Values of JSON documents

What the strings and numbers of a document amount to. A string must be well-formed UTF-8 whose
escapes pair their surrogates. A whole number that fits into 64 bits is exact; any other number
becomes a double. Arrays and objects are read to a limited depth, and of members with one name the
last is kept.
-/

namespace ToolGateway.Json

/-! ## Strings -/

/-- The character of a code unit that is no surrogate. -/
def charOfUnit? (n : Nat) : Option Char :=
  if 0xD800 ≤ n ∧ n ≤ 0xDFFF then none else some (Char.ofNat n)

/-- The character of a pair of surrogates. -/
def charOfPair? (high low : Nat) : Option Char :=
  if (0xD800 ≤ high ∧ high ≤ 0xDBFF) ∧ (0xDC00 ≤ low ∧ low ≤ 0xDFFF) then
    some (Char.ofNat (0x10000 + (high - 0xD800) * 0x400 + (low - 0xDC00)))
  else none

/-- The bytes that pieces stand for, in reverse, on top of `done`. -/
def bytesOnto (done : Bytes) : List Piece → Option Bytes
  | [] => some done
  | .byte b :: rest => bytesOnto (b :: done) rest
  | .escaped c :: rest => bytesOnto ((String.utf8EncodeChar c).reverse ++ done) rest
  | .unit n :: rest =>
    match charOfUnit? n with
    | some c => bytesOnto ((String.utf8EncodeChar c).reverse ++ done) rest
    | none =>
      match rest with
      | .unit m :: rest =>
        match charOfPair? n m with
        | some c => bytesOnto ((String.utf8EncodeChar c).reverse ++ done) rest
        | none => none
      | _ => none

/-- The text of the pieces of a string. -/
def text? (pieces : List Piece) : Option String :=
  (bytesOnto [] pieces).bind fun bytes => Text.Utf8.decode? bytes.reverse

/-! ## Numbers -/

/-- Significands lie below this number. -/
def wordBound : Nat := UInt64.size

/-- Takes in digits as long as the significand fits into 64 bits; the rest is left over. -/
def gather (significand : Nat) : List Nat → Nat × List Nat
  | [] => (significand, [])
  | d :: rest =>
    if significand * 10 + d < wordBound then gather (significand * 10 + d) rest
    else (significand, d :: rest)

/-- The magnitude of a literal as a double: the digits that fit into 64 bits, scaled by one power
of ten. Digits before the point that do not fit raise the exponent by one each; digits after the
point that do not fit are dropped. -/
def Literal.magnitude? (literal : Literal) : Option Binary64 :=
  let (whole, wholeLeft) := gather 0 literal.whole
  let (significand, fractionLeft) := gather whole literal.fraction
  let exponent : Int := (literal.exponent.getD 0) + wholeLeft.length
    - (literal.fraction.length - fractionLeft.length : Nat)
  (Binary64.ofNat? significand).bind (·.scaleByTen? exponent)

/-- A literal as a double. -/
def Literal.double? (literal : Literal) : Option Binary64 :=
  if literal.negative then literal.magnitude?.map Binary64.neg else literal.magnitude?

/-- A literal that has neither a point nor an exponent, as a whole number. Minus zero is not among
them. -/
def Literal.whole? (literal : Literal) : Option Int :=
  if literal.fraction ≠ [] ∨ literal.exponent ≠ none then none
  else
    let n := natOfDigits literal.whole
    if literal.negative then if n = 0 then none else some (-n) else some n

/-- A whole number that fits into 64 bits, with or without sign. -/
def Literal.integer? (literal : Literal) : Option Int :=
  literal.whole?.filter fun n => -(wordBound / 2 : Nat) ≤ n ∧ n < wordBound

/-- The value of a literal. -/
def Literal.toJson? (literal : Literal) : Option Json :=
  match literal.integer? with
  | some n => some (.integer n)
  | none => literal.double?.map .double

/-! ## Values -/

/-- How deep arrays and objects may be nested, the outermost one included. -/
def maxDepth : Nat := 127

mutual

/-- The value of a document in which at most `depth` arrays and objects are nested. -/
def Document.toJson? (depth : Nat) : Document → Option Json
  | .null => some .null
  | .bool b => some (.bool b)
  | .number literal => literal.toJson?
  | .string pieces => (text? pieces).map .string
  | .array items =>
    match depth with
    | 0 => none
    | depth + 1 => (itemsOnto depth [] items).map fun done => .array done.reverse
  | .object members =>
    match depth with
    | 0 => none
    | depth + 1 => (membersOnto depth [] members).map .object

/-- The values of items, in reverse, on top of `done`. -/
def itemsOnto (depth : Nat) (done : List Json) : List Document → Option (List Json)
  | [] => some done
  | item :: rest =>
    match item.toJson? depth with
    | none => none
    | some v => itemsOnto depth (v :: done) rest

/-- The table of members, added to the table `done`. -/
def membersOnto (depth : Nat) (done : Table Json) :
    List (List Piece × Document) → Option (Table Json)
  | [] => some done
  | (name, document) :: rest =>
    match text? name, document.toJson? depth with
    | some name, some v => membersOnto depth (done.insert name v) rest
    | _, _ => none

end

/-- The value of a text. -/
def parse? (bytes : Bytes) : Option Json := (Document.parse? bytes).bind (·.toJson? maxDepth)

end ToolGateway.Json
