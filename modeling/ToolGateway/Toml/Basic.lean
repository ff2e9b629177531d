/-!
# TOML values

The values of the configuration language. Numbers with a fraction and points in time may stand in
a file and are told apart, but nothing is computed with them, so their text is kept as it is. The
members of a table have distinct names.
-/

namespace ToolGateway

/-- A TOML value. -/
inductive Toml where
  | text (s : String)
  | integer (n : Int)
  /-- A number with a fraction or an exponent, an infinity or no number; whether it is one of the
  latter or rounds to a finite double. -/
  | float (literal : String) (inRange : Bool)
  | boolean (b : Bool)
  /-- A date, a time of day or both. -/
  | moment (literal : String)
  | array (items : List Toml)
  | table (members : List (String × Toml))
  deriving Repr, Inhabited

namespace Toml

/-- A dotted key: the names before the last one, and the last one. -/
structure Key where
  path : List String
  last : String
  deriving DecidableEq, Repr

/-- The key of a list of names. -/
def Key.ofNames? (names : List String) : Option Key :=
  names.getLast?.map fun last => ⟨names.dropLast, last⟩

/-- Keys have no more names than this, and arrays and tables within a value are nested no deeper. -/
def maxDepth : Nat := 80

end Toml

end ToolGateway
