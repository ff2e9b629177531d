import ToolGateway.Json.Token

/-!
# JSON documents

A `Document` is the tree of a JSON text with its strings and numbers as they were written.
Members keep their order and may repeat.

Tokens are read one after the other by a machine with an explicit stack of the arrays and objects
that are still open, so nesting has no limit here. `State.step` is one step of it and `ofTokens?`
runs it over a whole text, which must be one value.
-/

namespace ToolGateway.Json

/-- The tree of a JSON text. -/
inductive Document where
  | null
  | bool (b : Bool)
  | number (literal : Literal)
  | string (pieces : List Piece)
  | array (items : List Document)
  | object (members : List (List Piece × Document))
  deriving Repr, Inhabited

namespace Document

/-- An array or object that is still open: what it holds so far, the last part first, and for an
object the name whose value is being read. -/
inductive Frame where
  | items (done : List Document)
  | member (done : List (List Piece × Document)) (name : List Piece)
  deriving Repr

/-- What may come next, and what is open around it (the innermost first). -/
inductive State where
  /-- A value. -/
  | value (frames : List Frame)
  /-- The first item of an array, or its end. -/
  | firstItem (frames : List Frame)
  /-- The first member of an object, or its end. -/
  | firstMember (frames : List Frame)
  /-- A further member of an object. -/
  | name (done : List (List Piece × Document)) (frames : List Frame)
  /-- The colon after a name. -/
  | colon (done : List (List Piece × Document)) (name : List Piece) (frames : List Frame)
  /-- What follows a complete value. -/
  | after (document : Document) (frames : List Frame)
  deriving Repr

namespace State

/-- The state after the first token of a value. -/
def enter (frames : List Frame) : Token → Option State
  | .null => some (.after .null frames)
  | .bool b => some (.after (.bool b) frames)
  | .number literal => some (.after (.number literal) frames)
  | .string pieces => some (.after (.string pieces) frames)
  | .openArray => some (.firstItem frames)
  | .openObject => some (.firstMember frames)
  | _ => none

/-- Takes one token. -/
def step : State → Token → Option State
  | .value frames, token => enter frames token
  | .firstItem frames, .closeArray => some (.after (.array []) frames)
  | .firstItem frames, token => enter (.items [] :: frames) token
  | .firstMember frames, .closeObject => some (.after (.object []) frames)
  | .firstMember frames, .string key => some (.colon [] key frames)
  | .name done frames, .string key => some (.colon done key frames)
  | .colon done key frames, .colon => some (.value (.member done key :: frames))
  | .after document (.items done :: frames), .comma =>
    some (.value (.items (document :: done) :: frames))
  | .after document (.items done :: frames), .closeArray =>
    some (.after (.array (document :: done).reverse) frames)
  | .after document (.member done key :: frames), .comma =>
    some (.name ((key, document) :: done) frames)
  | .after document (.member done key :: frames), .closeObject =>
    some (.after (.object ((key, document) :: done).reverse) frames)
  | _, _ => none

/-- The value that was read, when nothing is open around it. -/
def document? : State → Option Document
  | .after document [] => some document
  | _ => none

end State

/-- The tree of a list of tokens that make up one value. -/
def ofTokens? (tokens : List Token) : Option Document :=
  (tokens.foldlM State.step (.value [])).bind State.document?

/-- The tree of a text that holds one value. -/
def parse? (bytes : Bytes) : Option Document := (tokens? bytes).bind ofTokens?

end Document

end ToolGateway.Json
