import ToolGateway.Url.Host
import ToolGateway.Url.Path

/-!
# Reading authorities of URLs

Between two slashes and the path stand a name and a password, up to the last `@`, then a host and
behind a colon a `portNumber`. All but the host may be missing.
-/

namespace ToolGateway.Url

/-- Whether a character ends an authority. -/
def endsAuthority (kind : Kind) (c : Char) : Bool := isSlash kind c || endsPath c

/-- Cuts an authority from what follows it. -/
def authorityPart (kind : Kind) (cs : List Char) : List Char × List Char :=
  let part := cs.takeWhile fun c => !endsAuthority kind c
  (part, cs.drop part.length)

/-- Cuts an authority at its last `@`: what stands before it, if there is one, and what follows. -/
def cutUserinfo (authority : List Char) : Option (List Char) × List Char :=
  if authority.contains '@' then
    let back := authority.reverse
    (some ((back.dropWhile (· ≠ '@')).drop 1).reverse, (back.takeWhile (· ≠ '@')).reverse)
  else (none, authority)

/-- The name and the password before an `@`; an empty password counts as none. -/
def readUserinfo (cs : List Char) : String × Option String :=
  let password := (cs.dropWhile (· ≠ ':')).drop 1
  (escapeText escapedInUserinfo (cs.takeWhile (· ≠ ':')),
    if password = [] then none else some (escapeText escapedInUserinfo password))

/-- Cuts a host from what follows it: a colon outside brackets. -/
def cutHost (inBrackets : Bool) (begun : List Char) : List Char → List Char × List Char
  | [] => (begun.reverse, [])
  | c :: rest =>
    if c = ':' ∧ ¬ inBrackets then (begun.reverse, c :: rest)
    else cutHost (if c = '[' then true else if c = ']' then false else inBrackets) (c :: begun) rest

/-- Reads a `portNumber` behind its colon; no digits mean none. -/
def readPort? (scheme : String) (cs : List Char) : Option (Option Nat) :=
  if cs.all Char.isDigit then
    let n := cs.foldl (fun n c => min 65536 (n * 10 + (c.toNat - 0x30))) 0
    if n = 65536 then none
    else if cs = [] ∨ defaultPort? scheme = some n then some none
    else some (some n)
  else none

/-- Whether a host is empty. -/
def Host.isEmpty : Host → Bool
  | .domain name => name == ""
  | _ => false

/-- Reads an authority; `isLast` says that nothing follows it. An empty host stands only under other
schemes, without a `portNumber`, a name or a password, and behind a bare `@` only at the end. A
backslash behind the digits ends the authority under every scheme, and the rest is given back. -/
def readAuthority? (scheme : String) (cs : List Char) (isLast : Bool) :
    Option (Authority × List Char) := do
  let kind := kindOf scheme
  let (userinfo, rest) := cutUserinfo cs
  let (hostChars, rest) := cutHost false [] rest
  let host ← readHost? kind hostChars
  let portNumber ←
    match rest with
    | ':' :: digits => readPort? scheme (digits.takeWhile (· ≠ '\\'))
    | _ => some none
  let (username, password) := readUserinfo (userinfo.getD [])
  if host.isEmpty ∧ (kind.isSpecial ∨ rest ≠ [] ∨ username ≠ "" ∨ password.isSome) then none
  else if userinfo = some [] ∧ host.isEmpty ∧ ¬ isLast then none
  else return (⟨username, password, host, portNumber⟩, rest.dropWhile (· ≠ '\\'))

end ToolGateway.Url
