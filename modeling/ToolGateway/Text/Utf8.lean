import ToolGateway.Text.Hex

/-!
# UTF-8

Text is written as UTF-8 by `encode`. Reading cuts a byte string into well-formed characters and
broken parts, where a broken part is the longest run of bytes that begins a character and cannot
go on (or a single byte that begins none). `decode?` accepts a byte string without broken parts;
`decodeLossy` puts the replacement character in the place of each.
-/

namespace ToolGateway.Text.Utf8

/-- What the first byte of a character announces: the bits it holds, the range of the byte after
it, and how many bytes follow. -/
structure Lead where
  bits : Nat
  low : Nat
  high : Nat
  more : Nat
  deriving DecidableEq, Repr

/-- Reads a first byte. The range of the second byte keeps out overlong forms, surrogates and
numbers beyond the last character. -/
def lead? (b : UInt8) : Option Lead :=
  let n := b.toNat
  if n < 0x80 then some ⟨n, 0x80, 0xBF, 0⟩
  else if n < 0xC2 then none
  else if n < 0xE0 then some ⟨n - 0xC0, 0x80, 0xBF, 1⟩
  else if n = 0xE0 then some ⟨0, 0xA0, 0xBF, 2⟩
  else if n = 0xED then some ⟨0xD, 0x80, 0x9F, 2⟩
  else if n < 0xF0 then some ⟨n - 0xE0, 0x80, 0xBF, 2⟩
  else if n = 0xF0 then some ⟨0, 0x90, 0xBF, 3⟩
  else if n < 0xF4 then some ⟨n - 0xF0, 0x80, 0xBF, 3⟩
  else if n = 0xF4 then some ⟨4, 0x80, 0x8F, 3⟩
  else none

/-- Reads the bytes that follow a first byte: the character number, or nothing where a byte is
missing or out of range, and what was not consumed. -/
def follow (bits low high : Nat) : (more : Nat) → Bytes → Option Nat × Bytes
  | 0, rest => (some bits, rest)
  | _ + 1, [] => (none, [])
  | more + 1, b :: rest =>
    if low ≤ b.toNat ∧ b.toNat ≤ high then
      follow (bits * 64 + (b.toNat - 0x80)) 0x80 0xBF more rest
    else (none, b :: rest)

/-- Reading the bytes that follow never lengthens the rest. -/
theorem length_follow_le (bits low high more : Nat) (bytes : Bytes) :
    (follow bits low high more bytes).2.length ≤ bytes.length := by
  induction more generalizing bits low high bytes with
  | zero => simp [follow]
  | succ more ih =>
    cases bytes with
    | nil => simp [follow]
    | cons b rest =>
      simp only [follow]
      split
      · exact Nat.le_succ_of_le (ih _ _ _ _)
      · exact Nat.le_refl _

/-- The character or the broken part at the front, and what follows it. -/
def next (b : UInt8) (rest : Bytes) : Option Char × Bytes :=
  match lead? b with
  | none => (none, rest)
  | some lead =>
    let (number, rest) := follow lead.bits lead.low lead.high lead.more rest
    (number.map Char.ofNat, rest)

theorem length_next_le (b : UInt8) (rest : Bytes) : (next b rest).2.length ≤ rest.length := by
  simp only [next]
  split
  · exact Nat.le_refl _
  · exact length_follow_le _ _ _ _ _

/-- Cuts a byte string into characters and broken parts, in front of those already cut (the last
one first). -/
def cut (done : List (Option Char)) : Bytes → List (Option Char)
  | [] => done.reverse
  | b :: rest => cut ((next b rest).1 :: done) (next b rest).2
termination_by bytes => bytes.length
decreasing_by
  have := length_next_le b rest
  simp only [List.length_cons]
  omega

/-- The characters of a byte string, with `none` for each broken part. -/
def pieces (bytes : Bytes) : List (Option Char) := cut [] bytes

/-- The characters of a well-formed byte string. -/
def decodeChars? (bytes : Bytes) : Option (List Char) := (pieces bytes).mapM id

/-- The text of a well-formed byte string. -/
def decode? (bytes : Bytes) : Option String := (decodeChars? bytes).map String.ofList

/-- The text of a byte string, with U+FFFD for each broken part. -/
def decodeLossy (bytes : Bytes) : String :=
  String.ofList ((pieces bytes).map fun piece => piece.getD '\uFFFD')

/-- The bytes of a list of characters. -/
def encodeChars (cs : List Char) : Bytes := cs.flatMap String.utf8EncodeChar

/-- The bytes of a text. -/
def encode (s : String) : Bytes := encodeChars s.toList

end ToolGateway.Text.Utf8
