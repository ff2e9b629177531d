import ToolGateway.Http.Message
import ToolGateway.Text.Percent

/-!
# Routes

Three paths are served. Their segments are compared as they are written, before escapes are read;
the two segments of a tool call are read afterwards, and must be UTF-8 then. The label may be
empty, the tool may not. A target names its path alone, or behind a scheme and an authority, which
do not matter.
-/

namespace ToolGateway.Http

/-- What a path asks for. -/
inductive Route where
  /-- A call of a tool, with the label and the tool as they are written. -/
  | call (label tool : String)
  /-- The list of tool servers. -/
  | tools
  /-- A sign of life. -/
  | health
  deriving DecidableEq, Repr

/-- Whether a character may stand in a scheme. -/
def inScheme (c : Char) : Bool := c.isAlphanum || c = '+' || c = '-' || c = '.'

/-- Whether a character ends the path of a target. -/
def endsPath (c : Char) : Bool := c = '?' || c = '#'

/-- What follows the scheme and the authority of a target. The scheme may be empty, the authority
may not. -/
def behindAuthority? (target : List Char) : Option (List Char) :=
  match target.dropWhile inScheme with
  | ':' :: '/' :: '/' :: rest =>
    let isInAuthority (c : Char) : Bool := c ≠ '/' && !endsPath c
    if rest.takeWhile isInAuthority = [] then none else some (rest.dropWhile isInAuthority)
  | _ => none

/-- The path of a target: what stands before the query. Without a path, nothing is named. -/
def pathOf (target : String) : List Char :=
  match target.toList with
  | '/' :: cs => ('/' :: cs).takeWhile fun c => !endsPath c
  | cs => ((behindAuthority? cs).getD []).takeWhile fun c => !endsPath c

/-- Cuts a text at every slash, behind the segment begun (the last character first). -/
def segments (begun : List Char) : List Char → List String
  | [] => [String.ofList begun.reverse]
  | c :: rest =>
    if c = '/' then String.ofList begun.reverse :: segments [] rest else segments (c :: begun) rest

/-- The route of a target. -/
def Route.ofTarget? (target : String) : Option Route :=
  match segments [] (pathOf target) with
  | ["", "mcp", "v1", "proxy", label, "tools", tool] =>
    if tool = "" then none else some (.call label tool)
  | ["", "mcp", "v1", "tools"] => some .tools
  | ["", "healthz"] => some .health
  | _ => none

/-- The methods of a route, as an `allow` header lists them. -/
def Route.allowed : Route → String
  | .call _ _ => "POST"
  | .tools => "GET,HEAD"
  | .health => "GET,HEAD"

/-- Whether a route serves a method. -/
def Route.serves (r : Route) (method : String) : Bool :=
  match r with
  | .call _ _ => method == "POST"
  | .tools => method == "GET" || method == "HEAD"
  | .health => method == "GET" || method == "HEAD"

/-- The text of a segment. -/
def segmentText? (segment : String) : Option String :=
  Text.Utf8.decode? (Text.Percent.decode (Text.Utf8.encode segment))

end ToolGateway.Http
