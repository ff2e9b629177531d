import ToolGateway.Record
import ToolGateway.Toml.Basic

/-!
# Typed TOML values

Readers for the parts of records. A value is read as the type that is asked for, and the answer is
nothing where it has another shape. A record may be a table or an array of its fields in declared
order; names and items beyond the fields mean nothing. A point in time counts as a record without
known fields.

Values of names that mean nothing are read all the same, and a number among them that is too great
to be read makes the whole unreadable. Items beyond the fields are not even read.
-/

namespace ToolGateway.Toml

variable {α : Type}

/-- A text. -/
def text? : Toml → Option String
  | .text s => some s
  | _ => none

/-- A truth value. -/
def boolean? : Toml → Option Bool
  | .boolean b => some b
  | _ => none

/-- A whole number between two bounds. -/
def between? (low high : Int) : Toml → Option Int
  | .integer n => if low ≤ n ∧ n ≤ high then some n else none
  | _ => none

/-- A natural of so many bits. -/
def word? (bits : Nat) (v : Toml) : Option Nat :=
  (v.between? 0 (Nat.pow 2 bits - 1 : Nat)).map Int.toNat

/-- A list of what `read` reads. -/
def list? (read : Toml → Option α) : Toml → Option (List α)
  | .array items => items.mapM read
  | _ => none

/-- One of several names, alone or as the only member of a table with an empty value. -/
def choice? (choices : List (String × α)) : Toml → Option α
  | .text name => choices.lookup name
  | .table [(name, .table [])] => choices.lookup name
  | .table [(name, .array [])] => choices.lookup name
  | _ => none

/-- Whether a whole number has at most 128 bits. -/
def fitsWords (n : Int) : Bool := -(Nat.pow 2 127 : Nat) ≤ n && n < (Nat.pow 2 128 : Nat)

mutual

/-- Whether every number in a value can be read. -/
def isReadable : Toml → Bool
  | .text _ => true
  | .integer n => fitsWords n
  | .float _ inRange => inRange
  | .boolean _ => true
  | .moment _ => true
  | .array items => areReadable items
  | .table members => haveReadable members

/-- Whether every number in some values can be read. -/
def areReadable : List Toml → Bool
  | [] => true
  | v :: rest => v.isReadable && areReadable rest

/-- Whether every number in the values of some names can be read. -/
def haveReadable : List (String × Toml) → Bool
  | [] => true
  | (_, v) :: rest => v.isReadable && haveReadable rest

end

/-- The fields of a record with these names. -/
def record? (names : List String) : Toml → Option (ToolGateway.Record Toml)
  | .table members =>
    if haveReadable (members.filter fun m => !names.contains m.1) then
      Record.ofMembers? names members
    else none
  | .array items => some (Record.ofItems names items)
  | .moment _ => some ⟨true, []⟩
  | _ => none

end ToolGateway.Toml
