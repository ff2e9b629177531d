import ToolGateway.Json.Reading
import ToolGateway.Record

/-!
# Typed values of JSON documents

Readers for the parts of records. A document is read as the type that is asked for, and the answer
is nothing where it has another shape. A record may be an object or an array of its fields; the
array may end early but holds no more items than there are fields. What a name means is decided on
its decoded text, so every name must decode, while the values of unknown names are skipped as they
are.

Records count for depth like the arrays and objects that they are: `depth` says how many may still
be nested.
-/

namespace ToolGateway.Json.Document

variable {α : Type}

/-- A text. -/
def string? : Document → Option String
  | .string pieces => text? pieces
  | _ => none

/-- A truth value. -/
def bool? : Document → Option Bool
  | .bool b => some b
  | _ => none

/-- A whole number between two bounds. -/
def integer? (low high : Int) : Document → Option Int
  | .number literal => literal.whole?.filter fun n => low ≤ n ∧ n ≤ high
  | _ => none

/-- A natural of so many bits. -/
def word? (bits : Nat) (document : Document) : Option Nat :=
  (document.integer? 0 (Nat.pow 2 bits - 1 : Nat)).map Int.toNat

/-- Null, or what `read` reads. -/
def orNull (read : Document → Option α) : Document → Option (Option α)
  | .null => some none
  | document => (read document).map some

/-- One of several names, alone or as the only member of an object with the value null. -/
def choice? (depth : Nat) (choices : List (String × α)) : Document → Option α
  | .string pieces => (text? pieces).bind (List.lookup · choices)
  | .object [(name, .null)] => if depth = 0 then none else (text? name).bind (List.lookup · choices)
  | _ => none

/-- The fields of a record with these names. -/
def record? (depth : Nat) (names : List String) : Document → Option (ToolGateway.Record Document)
  | .object members =>
    if depth = 0 then none
    else do
      let members ← members.mapM fun (name, document) => (text? name).map (·, document)
      Record.ofMembers? names members
  | .array items =>
    if depth = 0 ∨ names.length < items.length then none else some (Record.ofItems names items)
  | _ => none

end ToolGateway.Json.Document
