import ToolGateway.Json.Printer
import ToolGateway.Net.Address
import ToolGateway.Text.Utf8

/-!
# HTTP messages

Requests as they arrive and the responses to them. Header names mean the same in capitals and
small letters.
-/

namespace ToolGateway.Http

/-- A request. -/
structure Request where
  method : String
  /-- The path, with a query or without. -/
  target : String
  headers : List (String × Bytes)
  body : Bytes
  /-- Where the request comes from. -/
  peer : IpAddress
  deriving Repr

/-- A response. -/
structure Response where
  status : Nat
  headers : List (String × String)
  body : String
  deriving DecidableEq, Repr

/-- The first value of a header. -/
def header? (headers : List (String × Bytes)) (name : String) : Option Bytes :=
  (headers.find? fun h => h.1.toLower == name).map Prod.snd

/-- Whether a byte of a header value is plain: a printable ASCII character, the space or the tab. -/
def isPlain (b : UInt8) : Bool := (0x20 ≤ b && b ≤ 0x7E) || b == 0x09

/-- The text of a header value of plain bytes. -/
def plainText? (bytes : Bytes) : Option String :=
  if bytes.all isPlain then some (String.ofList (bytes.map fun b => Char.ofNat b.toNat)) else none

/-- The first value of a header, if it is plain. -/
def Request.headerText? (r : Request) (name : String) : Option String :=
  (header? r.headers name).bind plainText?

/-- A response with a JSON body. -/
def Response.json (status : Nat) (body : Json) (headers : List (String × String)) : Response :=
  ⟨status, ("content-type", "application/json") :: headers, body.render⟩

/-- A response without a body. -/
def Response.empty (status : Nat) (headers : List (String × String)) : Response :=
  ⟨status, headers, ""⟩

/-- The response with its body left out. -/
def Response.withoutBody (r : Response) : Response := { r with body := "" }

end ToolGateway.Http
