import ToolGateway.Delivery.Head
import ToolGateway.Delivery.Intake
import ToolGateway.Text.Hex

/-!
# Bodies of answers

The head of an answer says where its body ends: the body comes in chunks that tell their sizes, or
its length is announced, or it goes on until the connection is closed. Lengths that contradict each
other are refused. A body that ends before it should is cut short, and what came of it is kept.
-/

namespace ToolGateway

/-- Where the body of an answer ends. -/
inductive Framing where
  /-- There is no body. -/
  | absent
  | announced (length : Nat)
  | chunked
  /-- Where the connection is closed. -/
  | atClose
  deriving DecidableEq, Repr

/-- The chunks of a body, and the failure that ended it early, if one did. -/
abbrev Chunks := List Bytes × Option DeliveryFailure

/-- The failure of a connection that was closed too early. -/
def closedEarly : DeliveryFailure := .transport "the connection was closed too early"

/-- The failure of an answer that is not formed as it must be. -/
def malformed : DeliveryFailure := .transport "not an answer"

namespace Framing

/-! ## What the head says -/

/-- The characters of a value that has plain ones only. -/
def plainText? (value : Bytes) : Option (List Char) :=
  if value.all fun b => Head.isGap b || (0x21 ≤ b && b ≤ 0x7E) then
    some (value.map fun b => Char.ofNat b.toNat)
  else none

/-- Cuts a text at its commas and takes the blanks off the parts. -/
def listed (cs : List Char) : List String :=
  ((String.ofList cs).splitOn ",").map fun part => part.trimAscii.toString

/-- Reads a length, which has 64 bits at most. -/
def length? (s : String) : Option Nat :=
  if s ≠ "" ∧ s.toList.all Char.isDigit then s.toNat?.filter (· < UInt64.size) else none

/-- The length that all values announce, if they agree. -/
def agreedLength? (values : List Bytes) : Option Nat := do
  let texts ← values.mapM plainText?
  let lengths ← (texts.flatMap listed).mapM length?
  match lengths with
  | [] => none
  | n :: rest => if rest.all (· == n) then some n else none

/-- Whether the last coding of the last value is by chunks. -/
def isChunked (values : List Bytes) : Bool :=
  ((values.getLast?.bind plainText?).bind fun cs => (listed cs).getLast?).any fun coding =>
    coding.toLower == "chunked"

/-- Where the body behind a head ends. A coding says more than a length; answers of HTTP/1.0 have
none. -/
def ofHead? (head : Head) : Option Framing :=
  let codings := head.valuesOf "transfer-encoding"
  let lengths := head.valuesOf "content-length"
  if !Arrival.hasBody head.status then some .absent
  else if codings ≠ [] then
    if head.isOld then none else some (if isChunked codings then .chunked else .atClose)
  else if lengths ≠ [] then (agreedLength? lengths).map .announced
  else some .atClose

/-! ## Chunks -/

/-- Cuts a line that a carriage return and a line feed end, behind the bytes begun (the last one
first). -/
def cutLine? (begun : Bytes) : Bytes → Option (Bytes × Bytes)
  | [] => none
  | b :: rest =>
    if b = Head.carriageReturn then
      match rest with
      | [] => none
      | c :: rest => if c = Head.lineFeed then some (begun.reverse, rest) else none
    else cutLine? (b :: begun) rest

/-- What follows a line is shorter than the whole. -/
theorem length_lt_of_cutLine? {begun bytes line rest : Bytes}
    (h : cutLine? begun bytes = some (line, rest)) : rest.length < bytes.length := by
  fun_induction cutLine? begun bytes with
  | case1 => cases h
  | case2 => cases h
  | case3 =>
    cases h
    exact Nat.lt_add_of_pos_right (Nat.zero_lt_succ 1)
  | case4 => cases h
  | case5 _ _ _ _ ih => exact Nat.lt_succ_of_lt (ih h)

/-- The size in the first line of a chunk: hexadecimal digits, then blanks, then perhaps a semicolon
and what does not matter. -/
def chunkSize? (line : Bytes) : Option Nat := do
  let digits := line.takeWhile fun b => (Text.hexCodeValue? b.toNat).isSome
  let size ← digits.foldlM (fun n b => do
    let n := n * 16 + (← Text.hexCodeValue? b.toNat)
    if n < UInt64.size then some n else none) 0
  match (line.drop digits.length).dropWhile Head.isGap with
  | [] => if digits = [] then none else some size
  | b :: extension =>
    if digits = [] ∨ b ≠ 0x3B ∨ Head.lineFeed ∈ extension then none else some size

/-- Reads the lines behind the last chunk, up to an empty one. -/
def readTrailer (done : List Bytes) (bytes : Bytes) : Chunks :=
  match h : cutLine? [] bytes with
  | none => (done.reverse, some closedEarly)
  | some (line, rest) =>
    have := length_lt_of_cutLine? h
    if line = [] then (done.reverse, none) else readTrailer done rest
termination_by bytes.length

/-- Reads chunks on top of those before them (the last one first). -/
def readChunks (done : List Bytes) (bytes : Bytes) : Chunks :=
  match h : cutLine? [] bytes with
  | none => (done.reverse, some closedEarly)
  | some (line, rest) =>
    match chunkSize? line with
    | none => (done.reverse, some malformed)
    | some 0 => readTrailer done rest
    | some size =>
      let done := rest.take size :: done
      match h' : cutLine? [] (rest.drop size) with
      | some ([], more) =>
        have := length_lt_of_cutLine? h
        have := length_lt_of_cutLine? h'
        have : (rest.drop size).length ≤ rest.length := by simp
        readChunks done more
      | _ => (done.reverse, some closedEarly)
termination_by bytes.length
decreasing_by omega

/-! ## Reading -/

/-- Reads a body. -/
def read (bytes : Bytes) : Framing → Chunks
  | .absent => ([], none)
  | .announced length =>
    ([bytes.take length], if bytes.length < length then some closedEarly else none)
  | .chunked => readChunks [] bytes
  | .atClose => ([bytes], none)

end Framing

end ToolGateway
