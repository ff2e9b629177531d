import ToolGateway.Url.Parse

/-!
# URLs of tools

A tool lives below the endpoint of its server, behind the segment `tools`. Adding a segment puts
it behind the last one, which is dropped first if it is empty. The text of a segment is escaped so
that it stays one segment, but tabs and line breaks in it are ignored, and a segment that comes
out as a dot or two dots moves within the path.
-/

namespace ToolGateway.Url

/-- Drops an empty segment at the end, unless it is the only one. -/
def dropEmptyEnd (segments : List String) : List String :=
  if 1 < segments.length ∧ segments.getLast? = some "" then segments.dropLast else segments

/-- Adds a text as one segment. The texts `.` and `..` add nothing. -/
def push (kind : Kind) (segments : List String) (text : String) : List String :=
  if text = "." ∨ text = ".." then segments
  else
    let done := if segments = [""] then [] else segments
    let segment := escapeText (escapedInSegment kind) text.toList
    settle kind (addSegment done.reverse segment true).reverse

/-- The segment below which the tools of a server are. -/
def toolsSegment : String := "tools"

/-- The URL of a tool below an endpoint, or nothing where the endpoint takes no segments. -/
def withTool? (u : Url) (tool : String) : Option Url :=
  match u.path with
  | .opaquePath _ => none
  | .segments guarded parts =>
    let below := push u.kind (push u.kind (dropEmptyEnd parts) toolsSegment) tool
    some { u with path := .segments guarded below }

end ToolGateway.Url
