import ToolGateway.Url.Basic

/-!
# Reading paths of URLs

A path is cut at its slashes, and its segments are put together one after the other. It ends at a
question mark, behind which a query stands, or at a hash sign, behind which a fragment stands.
-/

namespace ToolGateway.Url

/-! ## Segments -/

/-- Whether a character ends a segment. -/
def isSlash (kind : Kind) (c : Char) : Bool := c = '/' || (kind.isSpecial && c = '\\')

/-- Whether a character ends a path. -/
def endsPath (c : Char) : Bool := c = '?' || c = '#'

/-- Cuts a path into segments, behind the segment begun (the last character first), and gives what
follows the path. -/
def cutSegments (kind : Kind) (begun : List Char) : List Char → List (List Char) × List Char
  | [] => ([begun.reverse], [])
  | c :: rest =>
    if isSlash kind c then
      let (more, after) := cutSegments kind [] rest
      (begun.reverse :: more, after)
    else if endsPath c then ([begun.reverse], c :: rest)
    else cutSegments kind (c :: begun) rest

/-- Adds the segments of a path one after the other to those before them (the last one first). -/
def addSegments (done : List String) : List (List Char) → List String
  | [] => done
  | segment :: rest =>
    addSegments (addSegment done (escapeText escapedInPath segment) rest.isEmpty) rest

/-- Reads a path behind its first slash. -/
def readSegments (kind : Kind) (cs : List Char) : List String × List Char :=
  let (raw, rest) := cutSegments kind [] cs
  ((addSegments [] raw).reverse, rest)

/-- Reads the path behind an authority. Only under other schemes may it be missing. -/
def readPath (kind : Kind) (cs : List Char) : List String × List Char :=
  match cs with
  | [] => if kind.isSpecial then readSegments kind [] else ([], [])
  | c :: rest =>
    if isSlash kind c then readSegments kind rest
    else if ¬ kind.isSpecial ∧ endsPath c then ([], cs)
    else readSegments kind cs

/-! ## Query and fragment -/

/-- Reads a query and a fragment. -/
def readEnd (kind : Kind) (cs : List Char) : Option String × Option String :=
  let fragment (cs : List Char) : Option String :=
    match cs with
    | '#' :: rest => some (escapeText escapedInFragment rest)
    | _ => none
  match cs with
  | '?' :: rest =>
    (some (escapeText (escapedInQuery kind) (rest.takeWhile (· ≠ '#'))),
      fragment (rest.dropWhile (· ≠ '#')))
  | cs => (none, fragment cs)

end ToolGateway.Url
