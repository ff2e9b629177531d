import ToolGateway.Text.Utf8

/-!
# Heads of answers

An answer of HTTP/1 begins with a line that gives its status, and with lines that give its headers;
an empty line ends them. A head that is not formed exactly so is refused as a whole. Main statement:
what follows a head is shorter than the text that begins with it, so that several heads in a row can
be read one after the other.
-/

namespace ToolGateway

/-- The head of an answer. -/
structure Head where
  /-- Whether the answer is of HTTP/1.0. -/
  isOld : Bool
  status : Nat
  /-- The headers, with their names in small letters. -/
  headers : List (String × Bytes)
  deriving DecidableEq, Repr

namespace Head

/-! ## Lines -/

/-- The end of a line; a carriage return may stand before it. -/
def lineFeed : UInt8 := 0x0A

/-- The carriage return. -/
def carriageReturn : UInt8 := 0x0D

/-- A line from its bytes, the last one first. -/
def lineOf (begun : Bytes) : Bytes :=
  match begun with
  | b :: rest => if b = carriageReturn then rest.reverse else begun.reverse
  | [] => []

/-- Cuts the lines up to an empty one from what follows it, behind some lines and a line begun (both
listed last first). Empty lines before the first one are left out. -/
def cutLines? (lines : List Bytes) (begun : Bytes) : Bytes → Option (List Bytes × Bytes)
  | [] => none
  | b :: rest =>
    if b = lineFeed then
      if lineOf begun ≠ [] then cutLines? (lineOf begun :: lines) [] rest
      else if lines = [] then cutLines? [] [] rest
      else some (lines.reverse, rest)
    else cutLines? lines (b :: begun) rest

/-- What follows the lines is shorter than the whole. -/
theorem length_lt_of_cutLines? {lines found : List Bytes} {begun bytes rest : Bytes}
    (h : cutLines? lines begun bytes = some (found, rest)) : rest.length < bytes.length := by
  induction bytes generalizing lines begun with
  | nil => simp [cutLines?] at h
  | cons b bytes ih =>
    rw [cutLines?] at h
    split at h
    · split at h
      · exact Nat.lt_succ_of_lt (ih h)
      · split at h
        · exact Nat.lt_succ_of_lt (ih h)
        · simp only [Option.some.injEq, Prod.mk.injEq] at h
          simp [← h.2]
    · exact Nat.lt_succ_of_lt (ih h)

/-! ## The first line -/

/-- Whether a byte may stand in the text behind the status or in the value of a header: no control
character but the tab. -/
def inText (b : UInt8) : Bool := b = 0x09 || (0x20 ≤ b && b ≠ 0x7F)

/-- The value of a digit. -/
def digit? (b : UInt8) : Option Nat :=
  if 0x30 ≤ b && b ≤ 0x39 then some (b.toNat - 0x30) else none

/-- The status of three digits; there are none below 100. -/
def status? (high middle low : UInt8) : Option Nat := do
  let n := (← digit? high) * 100 + (← digit? middle) * 10 + (← digit? low)
  if n < 100 then none else some n

/-- What every first line begins with. -/
def versionMark : Bytes := Text.Utf8.encode "HTTP/1."

/-- Reads the first line: whether it is of HTTP/1.0, and the status. Some text may follow. -/
def readFirst? (line : Bytes) : Option (Bool × Nat) :=
  if versionMark.isPrefixOf line then
    match line.drop versionMark.length with
    | minor :: 0x20 :: high :: middle :: low :: rest =>
      if (minor = 0x30 ∨ minor = 0x31) ∧ (rest = [] ∨ rest.head? = some 0x20) ∧ rest.all inText then
        (status? high middle low).map fun n => (minor = 0x30, n)
      else none
    | _ => none
  else none

/-! ## Headers -/

/-- Whether a byte may stand in the name of a header. -/
def inName (b : UInt8) : Bool :=
  let c := Char.ofNat b.toNat
  b < 0x80 && (c.isAlphanum || "!#$%&'*+-.^_`|~".toList.contains c)

/-- Whether a byte is a space or a tab. -/
def isGap (b : UInt8) : Bool := b = 0x20 || b = 0x09

/-- Takes spaces and tabs off both ends. -/
def trimGaps (bytes : Bytes) : Bytes :=
  ((bytes.dropWhile isGap).reverse.dropWhile isGap).reverse

/-- Reads the line of a header: its name, a colon, and the value. -/
def readHeader? (line : Bytes) : Option (String × Bytes) :=
  let name := line.takeWhile inName
  match line.drop name.length with
  | 0x3A :: value =>
    if name ≠ [] ∧ value.all inText then
      some ((String.ofList (name.map fun b => Char.ofNat b.toNat)).toLower, trimGaps value)
    else none
  | _ => none

/-- The most headers that an answer may have. -/
def maxHeaders : Nat := 100

/-- Reads a head from its lines. -/
def ofLines? (lines : List Bytes) : Option Head :=
  match lines with
  | [] => none
  | first :: rest => do
    let (isOld, status) ← readFirst? first
    let headers ← rest.mapM readHeader?
    if maxHeaders < headers.length then none else some ⟨isOld, status, headers⟩

/-- The values of the headers of a name, in order. -/
def valuesOf (head : Head) (name : String) : List Bytes :=
  (head.headers.filter (·.1 == name)).map (·.2)

/-- Whether a head only tells that the answer is on its way. Changing over to another protocol is an
answer. -/
def isInterim (head : Head) : Bool := head.status < 200 && head.status ≠ 101

end Head

end ToolGateway
