import ToolGateway.Delivery.Basic
import ToolGateway.Json.Reading

/-!
# Intake of an answer

The body of an answer arrives in chunks and is kept until it is complete, but never more of it than
a limit. What is kept is counted in a word, and the count carries the proof that it is right and
within the limit, so no later check is needed.

A complete body is read as JSON. A blank one is null, and one that is no JSON is a JSON string of
its text.
-/

namespace ToolGateway

/-- The sum of two lengths, if it fits into a word. -/
def addLengths? (m n : Nat) : Option Nat := if m + n < UInt64.size then some (m + n) else none

/-- A sum that fits is the sum. -/
theorem of_addLengths? {m n total : Nat} (h : addLengths? m n = some total) : total = m + n := by
  unfold addLengths? at h
  split at h
  · exact (Option.some.inj h).symm
  · cases h

/-- What has been kept of a body under a limit, with the running total of its bytes. -/
structure Intake (limit : Nat) where
  kept : Bytes
  total : Nat
  counts : total = kept.length
  fits : total ≤ limit

namespace Intake

/-- Nothing yet. -/
def empty (limit : Nat) : Intake limit := ⟨[], 0, rfl, Nat.zero_le limit⟩

/-- Keeps one more chunk, if the total can be counted and is within the limit. -/
def add? {limit : Nat} (intake : Intake limit) (chunk : Bytes) : Option (Intake limit) :=
  match h : addLengths? intake.total chunk.length with
  | none => none
  | some total =>
    if hfits : total ≤ limit then
      have hcounts : total = (intake.kept ++ chunk).length := by
        rw [of_addLengths? h, intake.counts, List.length_append]
      some ⟨intake.kept ++ chunk, total, hcounts, hfits⟩
    else none

/-- Takes chunks until one does not fit. -/
def takeAll? {limit : Nat} (intake : Intake limit) : List Bytes → Option (Intake limit)
  | [] => some intake
  | chunk :: rest =>
    match intake.add? chunk with
    | none => none
    | some intake => intake.takeAll? rest

/-- Reads a body from its chunks, which may be cut short by a failure. A body over the limit is an
error even if it was cut short as well. -/
def read (limit : Nat) (chunks : List Bytes) (cutShort : Option DeliveryFailure) :
    Except DeliveryFailure Bytes :=
  match (empty limit).takeAll? chunks, cutShort with
  | none, _ => .error (.tooLarge limit)
  | some _, some failure => .error failure
  | some intake, none => .ok intake.kept

end Intake

/-- What arrives of an answer: its status, the chunks of its body, and the failure that ended it
early, if one did. -/
structure Arrival where
  status : Nat
  chunks : List Bytes
  cutShort : Option DeliveryFailure

namespace Arrival

/-- Whether answers with a status have a body. Behind a change of the protocol, and where there is
nothing or nothing new, there is none. -/
def hasBody (status : Nat) : Bool := status ≠ 101 && status ≠ 204 && status ≠ 304

/-- The body of an answer, which may have so many bytes. -/
def body (limit : Nat) (a : Arrival) : Except DeliveryFailure Bytes :=
  if hasBody a.status then Intake.read limit a.chunks a.cutShort else .ok []

/-- Whether a byte is a blank of ASCII. -/
def isBlankByte (b : UInt8) : Bool :=
  b == 0x20 || b == 0x09 || b == 0x0A || b == 0x0C || b == 0x0D

/-- The JSON value of a body. -/
def readBody (bytes : Bytes) : Json :=
  if bytes.all isBlankByte then .null
  else (Json.parse? bytes).getD (.string (Text.Utf8.decodeLossy bytes))

end Arrival

end ToolGateway
