import ToolGateway.Delivery.Basic
import ToolGateway.Json.Printer
import ToolGateway.Text.Base64
import ToolGateway.Url.Tool

/-!
# Posts

A call leaves the gateway as one HTTP request: a post of the arguments, written as JSON, to the URL
of the tool, with the secret in an authorization header. Building it fails for an endpoint under
which there are no tools and for a secret that no header can hold, in this order.

A name and a password in the endpoint are not sent as part of the URL. They become an authorization
header of their own, which stands before the one with the secret.
-/

namespace ToolGateway

/-- A request to a tool server. -/
structure Post where
  url : Url
  /-- The values of the authorization headers. -/
  authorization : List String
  body : String

namespace Post

/-- The method of every post. -/
def method : String := "POST"

/-- The content type of every post. -/
def contentType : String := "application/json"

/-- Whether a character may stand in a header value: no control character but the tab. -/
def inHeader (c : Char) : Bool := c = '\t' || (0x20 ≤ c.toNat && c.toNat ≠ 0x7F)

/-- A text as the basic scheme presents it. -/
def basic (s : String) : String := "Basic " ++ Text.Base64.encode (Text.Utf8.encode s)

/-- How a credential is presented; without a scheme it is not. -/
def presented? (c : Credential) : Option String :=
  match c.scheme with
  | .none => none
  | .bearer => some ("Bearer " ++ c.secret.text)
  | .basic => some (basic c.secret.text)

/-- The authorization header for a credential. -/
def authorization? (c : Credential) : Except DeliveryFailure (Option String) :=
  match presented? c with
  | none => .ok none
  | some value =>
    if value.toList.all inHeader then .ok (some value)
    else .error (.invalidRequest "credential is not a valid header")

/-- The URL of a tool below the endpoint of its server. -/
def toolUrl (endpoint tool : String) : Except DeliveryFailure Url :=
  match Url.parse? endpoint with
  | none => .error (.invalidRequest "invalid endpoint: no absolute URL")
  | some u =>
    match u.withTool? tool with
    | none => .error (.invalidRequest "endpoint cannot be a base")
    | some u => .ok u

/-- A part of a URL without its escapes. -/
def unescaped? (part : String) : Option String :=
  Text.Utf8.decode? (Text.Percent.decode (Text.Utf8.encode part))

/-- The name and the password in a URL, if it has either. A password that is not UTF-8 counts as
none, and behind a name that is not there is neither. -/
def userOf? (u : Url) : Option (String × Option String) := do
  let a ← u.authority
  let name ← unescaped? a.username
  let password := a.password.bind unescaped?
  if name = "" ∧ password = none then none else some (name, password)

/-- A URL without its name and password. -/
def withoutUser (u : Url) : Url :=
  { u with authority := u.authority.map fun a => { a with username := "", password := none } }

/-- Takes the name and the password out of a URL: what is left, and how they are presented. -/
def extractUser (u : Url) : Url × Option String :=
  match userOf? u with
  | some (name, password) => (withoutUser u, some (basic (name ++ ":" ++ password.getD "")))
  | none => (u, none)

/-- The post for a call. -/
def ofOutgoing (o : Outgoing) : Except DeliveryFailure Post := do
  let url ← toolUrl o.endpoint o.tool
  let presented ←
    match o.credential with
    | none => .ok none
    | some c => authorization? c
  let (url, user) := extractUser url
  return ⟨url, user.toList ++ presented.toList, o.arguments.render⟩

/-- The greatest length of a URL that can be sent, in bytes. -/
def maxUrlLength : Nat := 65534

/-- Whether a character of a domain name cannot be sent. -/
def isUnsendable (c : Char) : Bool := "\"\x7b\x7d`".toList.contains c

/-- Whether the host of a URL can be sent. -/
def hasSendableHost (u : Url) : Bool :=
  match u.authority with
  | some ⟨_, _, .domain name, _⟩ => !name.toList.any isUnsendable
  | _ => true

/-- Whether a post can be sent at all: over the web, with a URL that is not too long, to a host
whose name has no quotation marks and no braces. -/
def isSendable (p : Post) : Bool :=
  p.url.isWeb && p.url.render.utf8ByteSize ≤ maxUrlLength && hasSendableHost p.url

end Post

end ToolGateway
