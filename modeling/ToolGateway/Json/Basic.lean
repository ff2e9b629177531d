import ToolGateway.Number.Binary64

/-!
# JSON values

Whole numbers are kept exactly and apart from doubles. The members of an object are listed; a
value that was read lists them by increasing name, each name once.
-/

namespace ToolGateway

/-- A JSON value. -/
inductive Json where
  | null
  | bool (b : Bool)
  | integer (n : Int)
  | double (x : Binary64)
  | string (s : String)
  | array (items : List Json)
  | object (members : List (String × Json))
  deriving BEq, Repr, Inhabited

namespace Json

/-- A whole number without sign. -/
def ofNat (n : Nat) : Json := .integer n

/-- A text, or null in its absence. -/
def ofText? : Option String → Json
  | none => .null
  | some s => .string s

end Json

end ToolGateway
