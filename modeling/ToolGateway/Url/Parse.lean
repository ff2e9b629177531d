import ToolGateway.Url.File

/-!
# Reading URLs

An absolute URL is read part by part. Spaces and control characters at the ends do not matter, and
tabs and line breaks are ignored everywhere. What must be escaped in a part is escaped, dot
segments are resolved, and a `portNumber` that the scheme implies is dropped.
-/

namespace ToolGateway.Url

/-! ## Preparation and scheme -/

/-- Whether a character at either end of the text is ignored. -/
def isEdge (c : Char) : Bool := c.toNat ≤ 0x20

/-- A text without what is ignored at its ends. -/
def trimEdges (cs : List Char) : List Char :=
  ((cs.dropWhile isEdge).reverse.dropWhile isEdge).reverse

/-- Leaves out what is ignored, but for one tab where it directly follows a colon. -/
def breaksBehindColons (isBehindColon : Bool) : List Char → List Char
  | [] => []
  | c :: rest =>
    if !isIgnored c then c :: breaksBehindColons (c = ':') rest
    else if isBehindColon then '\t' :: breaksBehindColons false rest
    else breaksBehindColons false rest

/-- Whether a character may stand in a scheme. -/
def inScheme (c : Char) : Bool := c.isAlphanum || c = '+' || c = '-' || c = '.'

/-- Reads a scheme and its colon. -/
def readScheme? (cs : List Char) : Option (String × List Char) :=
  match cs with
  | [] => none
  | c :: _ =>
    if c.isAlpha then
      match cs.dropWhile inScheme with
      | ':' :: rest => some (String.ofList ((cs.takeWhile inScheme).map Char.toLower), rest)
      | _ => none
    else none

/-! ## URLs -/

/-- Puts a URL together from its scheme, its authority and what follows. -/
def finish (scheme : String) (authority : Option Authority) (path : Path) (cs : List Char) : Url :=
  let (query, fragment) := readEnd (kindOf scheme) cs
  ⟨scheme, authority, path, query, fragment⟩

/-- Reads what follows the two slashes before an authority. -/
def readBehindSlashes? (scheme : String) (cs : List Char) : Option Url := do
  let (part, rest) := authorityPart (kindOf scheme) cs
  let (authority, more) ← readAuthority? scheme part rest.isEmpty
  let (segments, rest) := readPath (kindOf scheme) (more ++ rest)
  return finish scheme (some authority) (.segments false segments) rest

/-- Reads a path that no authority precedes. Two slashes at its front would read as an authority,
so it is guarded. -/
def readRootedPath (scheme : String) (cs : List Char) : Url :=
  let (segments, rest) := readSegments (kindOf scheme) cs
  let guarded := decide (segments.head? = some "" ∧ 1 < segments.length)
  finish scheme none (.segments guarded segments) rest

/-- Reads an opaque path. -/
def readOpaquePath (scheme : String) (cs : List Char) : Url :=
  finish scheme none (.opaquePath (escapeText escapedInHost (cs.takeWhile fun c => !endsPath c)))
    (cs.dropWhile fun c => !endsPath c)

/-- Reads an absolute URL. -/
def parse? (s : String) : Option Url := do
  let (scheme, rest) ← readScheme? (breaksBehindColons false (trimEdges s.toList))
  match kindOf scheme with
  | .file => readFile? rest
  | .special =>
    readBehindSlashes? scheme ((withoutIgnored rest).dropWhile (isSlash .special))
  | .other =>
    match withoutIgnored rest with
    | '/' :: '/' :: rest => readBehindSlashes? scheme rest
    | '/' :: rest => return readRootedPath scheme rest
    | rest => return readOpaquePath scheme rest

end ToolGateway.Url
