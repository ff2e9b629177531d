import ToolGateway.Net.Address
import ToolGateway.Text.Percent
import ToolGateway.Text.Utf8

/-!
# URLs

A URL in parts. What is kept in a part is already escaped, so writing a URL only puts the parts
together. The path of most URLs is a list of segments; a URL of an unknown scheme without slashes
has an opaque path instead and takes no segments.
-/

namespace ToolGateway

/-- How a scheme is treated. -/
inductive Url.Kind where
  /-- Always with a host, and a backslash means a slash. -/
  | special
  /-- Like `special`, but the host may be missing and drives have letters. -/
  | file
  /-- Any other scheme. -/
  | other
  deriving DecidableEq, Repr

/-- The host of a URL. -/
inductive Url.Host where
  | domain (name : String)
  | v4 (address : Ipv4)
  | v6 (groups : List Nat)
  deriving DecidableEq, Repr

/-- What stands between the slashes and the path. -/
structure Url.Authority where
  username : String
  password : Option String
  host : Url.Host
  /-- Missing where it is the one that the scheme implies. -/
  portNumber : Option Nat
  deriving DecidableEq, Repr

/-- The path of a URL. -/
inductive Url.Path where
  | opaquePath (text : String)
  /-- Each segment follows a slash; `guarded` says that `/.` stands in front of the first one. -/
  | segments (guarded : Bool) (segments : List String)
  deriving DecidableEq, Repr

/-- A URL. -/
structure Url where
  scheme : String
  authority : Option Url.Authority
  path : Url.Path
  query : Option String
  fragment : Option String
  deriving DecidableEq, Repr

namespace Url

/-- The kind of a scheme. -/
def kindOf (scheme : String) : Kind :=
  if scheme = "file" then .file
  else if ["http", "https", "ws", "wss", "ftp"].contains scheme then .special
  else .other

/-- The kind of a URL. -/
def kind (u : Url) : Kind := kindOf u.scheme

/-- Whether a URL is one of the web. -/
def isWeb (u : Url) : Bool := u.scheme = "http" || u.scheme = "https"

/-- Whether the kind has the rules of the web. -/
def Kind.isSpecial : Kind → Bool
  | .special => true
  | .file => true
  | .other => false

/-- The `portNumber` that a scheme implies. -/
def defaultPort? (scheme : String) : Option Nat :=
  [("http", 80), ("ws", 80), ("https", 443), ("wss", 443), ("ftp", 21)].lookup scheme

/-! ## What is escaped -/

/-- Whether a byte is the code of one of some ASCII characters. -/
def isOneOf (chars : String) (b : UInt8) : Bool := chars.toList.any fun c => c.toNat == b.toNat

/-- Control characters, and everything beyond ASCII. -/
def escapedInHost (b : UInt8) : Bool := b < 0x20 || 0x7F ≤ b

/-- What is escaped in fragments. -/
def escapedInFragment (b : UInt8) : Bool := escapedInHost b || isOneOf " \"<>`" b

/-- What is escaped in paths. -/
def escapedInPath (b : UInt8) : Bool := escapedInFragment b || isOneOf "#?\x7b\x7d" b

/-- What is escaped in names and passwords. -/
def escapedInUserinfo (b : UInt8) : Bool := escapedInPath b || isOneOf "/:;=@[\\]^|" b

/-- What is escaped in queries. -/
def escapedInQuery (kind : Kind) (b : UInt8) : Bool :=
  escapedInHost b || isOneOf " \"#<>" b || (kind.isSpecial && b == 0x27)

/-- What is escaped in a text that is to be one segment. -/
def escapedInSegment (kind : Kind) (b : UInt8) : Bool :=
  escapedInPath b || isOneOf "/%" b || (kind.isSpecial && b == 0x5C)

/-- Whether a character is ignored wherever it stands. -/
def isIgnored (c : Char) : Bool := c = '\t' || c = '\n' || c = '\r'

/-- The characters of a text that count. -/
def withoutIgnored (cs : List Char) : List Char := cs.filter fun c => !isIgnored c

/-- Escapes a text. -/
def escapeText (escaped : UInt8 → Bool) (cs : List Char) : String :=
  String.ofList ((Text.Percent.encode escaped (Text.Utf8.encodeChars (withoutIgnored cs))).map
    fun b => Char.ofNat b.toNat)

/-! ## Segments -/

/-- Whether a segment stands for the place itself. -/
def isDot (segment : String) : Bool := [".", "%2e"].contains segment.toLower

/-- Whether a segment stands for the place above. -/
def isDotDot (segment : String) : Bool :=
  ["..", "%2e.", ".%2e", "%2e%2e"].contains segment.toLower

/-- Whether a character is the mark behind the letter of a drive. -/
def isDriveMark (c : Char) : Bool := c = ':' || c = '|'

/-- Whether a segment is the letter of a drive. -/
def isDrive (segment : String) : Bool :=
  match segment.toList with
  | [letter, mark] => letter.isAlpha && isDriveMark mark
  | _ => false

/-- Whether a segment begins with a drive: its letter stands alone or before a backslash. Such a
segment is never taken off, whatever the scheme. -/
def beginsWithDrive (segment : String) : Bool :=
  match segment.toList with
  | letter :: mark :: rest =>
    letter.isAlpha && isDriveMark mark && (rest.isEmpty || rest.head? == some '\\')
  | _ => false

/-- Takes the last segment off (segments are listed last first); a drive stays. -/
def dropLastSegment : List String → List String
  | [] => []
  | s :: rest => if beginsWithDrive s then s :: rest else rest

/-- Adds an escaped segment to those before it (the last one first). A dot adds nothing and two
dots take one off, but the end of a path leaves an empty segment behind either. -/
def addSegment (done : List String) (segment : String) (isLast : Bool) : List String :=
  if isDotDot segment then
    if isLast then "" :: dropLastSegment done else dropLastSegment done
  else if isDot segment then if isLast then "" :: done else done
  else segment :: done

/-- The path of a file begins with a segment that is not empty. -/
def settle (kind : Kind) (segments : List String) : List String :=
  if kind = .file then
    match segments.dropWhile (· == "") with
    | [] => [""]
    | rest => rest
  else segments

/-! ## Writing -/

/-- The text of a host. -/
def Host.render : Host → String
  | .domain name => name
  | .v4 address => String.ofList (Address.Ipv4.chars address)
  | .v6 groups => "[" ++ String.ofList (Address.compressGroups groups) ++ "]"

/-- The text of an authority. -/
def Authority.render (a : Authority) : String :=
  let user := a.username ++ match a.password with
    | some password => ":" ++ password
    | none => ""
  (if user = "" then "" else user ++ "@") ++ a.host.render ++
    match a.portNumber with
    | some n => ":" ++ Nat.repr n
    | none => ""

/-- The text of segments. -/
def renderSegments (segments : List String) : String :=
  String.join (segments.map fun s => "/" ++ s)

/-- The text of a path. -/
def Path.render : Path → String
  | .opaquePath text => text
  | .segments guarded parts => (if guarded then "/." else "") ++ renderSegments parts

/-- The text of a URL. -/
def render (u : Url) : String :=
  u.scheme ++ ":" ++ (match u.authority with
    | some a => "//" ++ a.render
    | none => "") ++ u.path.render ++ (match u.query with
    | some q => "?" ++ q
    | none => "") ++ match u.fragment with
    | some f => "#" ++ f
    | none => ""

/-- The path and the query, as a request names them. -/
def target (u : Url) : String :=
  u.path.render ++ match u.query with
    | some q => "?" ++ q
    | none => ""

end Url

end ToolGateway
