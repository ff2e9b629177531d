import ToolGateway.Url.Authority

/-!
# Reading URLs of files

The path of a file may begin with a drive: a letter with a colon or a bar behind it, which becomes a
colon. A drive directly behind a host takes the place of the host. A file without a host is one of
this machine, and so is one of the host `localhost`.

A tab or a line break is ignored in the path of a file as elsewhere, with one exception: directly
behind the colon of a drive it ends the segment. So the reader of files is given one tab for those
behind a colon.
-/

namespace ToolGateway.Url

/-! ## Drives -/

/-- The drive at the front of a path, if there is one, and the segments behind it. Dots before it do
not matter. -/
def cutDrive? : List (List Char) → Option (Char × List (List Char))
  | [] => none
  | raw :: rest =>
    let segment := escapeText escapedInPath raw
    if isDot segment || isDotDot segment then cutDrive? rest
    else if isDrive segment then segment.toList.head?.map (·, rest)
    else none

/-- The drive at the front of a path that a break ends, if there is one, what stands between the
break and the end of the segment, and the segments behind it. -/
def cutAtBreak? : List (List Char) → Option (Char × List Char × List (List Char))
  | [] => none
  | raw :: rest =>
    let segment := escapeText escapedInPath raw
    if isDot segment || isDotDot segment then cutAtBreak? rest
    else
      match raw with
      | letter :: ':' :: '\t' :: c :: more =>
        if letter.isAlpha then some (letter, c :: more, rest) else none
      | _ => none

/-- The segment of a drive. -/
def driveSegment (letter : Char) : String := String.ofList [letter, ':']

/-- Puts the segments of a path together (the last one first). What follows a break is a segment as
it is, even if it is a dot. -/
def fileSegments (raw : List (List Char)) : List String :=
  match cutDrive? raw, cutAtBreak? raw with
  | some (letter, rest), _ => addSegments [driveSegment letter] rest
  | none, some (letter, text, rest) =>
    addSegments [escapeText escapedInPath text, driveSegment letter] rest
  | none, none => addSegments [] raw

/-! ## Files -/

/-- The authority of a file on this machine. -/
def localAuthority : Authority := ⟨"", none, .domain "", none⟩

/-- A file of a path and what follows it. -/
def fileUrl (authority : Authority) (cs : List Char) : Url :=
  let (raw, rest) := cutSegments .file [] cs
  let (query, fragment) := readEnd .file rest
  ⟨"file", some authority, .segments false (settle .file (fileSegments raw).reverse), query,
    fragment⟩

/-- A file of a host. -/
def hostFileUrl (host : Host) (cs : List Char) : Url :=
  let cs :=
    match cs with
    | c :: rest => if isSlash .file c then rest else cs
    | [] => []
  let takesHostsPlace := (cutDrive? (cutSegments .file [] cs).1).isSome
  fileUrl (if takesHostsPlace then localAuthority else ⟨"", none, host, none⟩) cs

/-- Reads a file behind two slashes. What stands there in a host's place may be a drive. -/
def readFileBehindSlashes? (cs : List Char) : Option Url :=
  let (part, rest) := authorityPart .file cs
  let part := withoutIgnored part
  if isDrive (String.ofList part) then some (fileUrl localAuthority cs)
  else if part = [] then some (fileUrl localAuthority rest)
  else (readHost? .file part).map fun host =>
    if host = .domain "localhost" then fileUrl localAuthority rest else hostFileUrl host rest

/-- Reads a file behind the colon of the scheme. -/
def readFile? (cs : List Char) : Option Url :=
  match cs.dropWhile isIgnored with
  | c :: d :: rest =>
    if isSlash .file c then
      if isSlash .file d then readFileBehindSlashes? rest
      else some (fileUrl localAuthority (d :: rest))
    else some (fileUrl localAuthority (c :: d :: rest))
  | [c] => some (fileUrl localAuthority (if isSlash .file c then [] else [c]))
  | [] => some (fileUrl localAuthority [])

end ToolGateway.Url
