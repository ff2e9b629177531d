import ToolGateway.Url.Basic
import ToolGateway.Url.Name

/-!
# Hosts of URLs

A host in brackets is an address of version 6. Under the schemes of the web any other host is a
domain name: escapes are read, characters are folded, and the name is kept in ASCII, with labels
beyond it in Punycode. A name whose last label is a number must be an address of version 4, which
may be short or use other bases. Under other schemes a host is any text without delimiters.
-/

namespace ToolGateway.Url

/-! ## Addresses of version 6 -/

/-- The groups of an address so far, with the place of the gap in them. -/
structure Groups where
  groups : List Nat
  gap : Option Nat
  deriving DecidableEq, Repr

/-- Takes at most `room` hexadecimal digits. -/
def takeHex (value : Nat) (cs : List Char) : (room : Nat) → Nat × List Char
  | 0 => (value, cs)
  | room + 1 =>
    match cs with
    | [] => (value, [])
    | c :: rest =>
      match Text.hexValue? c with
      | some d => takeHex (value * 16 + d) rest room
      | none => (value, cs)

/-- An address of version 4 at the end of one of version 6, as two groups. -/
def endingV4? (cs : List Char) : Option (List Nat) :=
  match Address.takeV4 cs with
  | some (address, []) => some (Address.Ipv4.groups address)
  | _ => none

/-- Reads groups; `room` says how many more there may be. -/
def readGroups (found : Groups) (cs : List Char) : (room : Nat) → Option Groups
  | 0 => if cs = [] then some found else none
  | room + 1 =>
    match cs with
    | [] => some found
    | ':' :: rest =>
      if found.gap.isSome then none
      else readGroups ⟨found.groups ++ [0], some (found.groups.length + 1)⟩ rest room
    | cs =>
      let (value, rest) := takeHex 0 cs 4
      match rest with
      | [] => readGroups { found with groups := found.groups ++ [value] } [] room
      | ':' :: rest =>
        if rest = [] then none
        else readGroups { found with groups := found.groups ++ [value] } rest room
      | '.' :: _ =>
        if found.groups.length ≤ 6 then
          (endingV4? cs).map fun last => { found with groups := found.groups ++ last }
        else none
      | _ => none

/-- Fills the gap with zeros. -/
def Groups.fill? (found : Groups) : Option (List Nat) :=
  match found.gap with
  | some gap =>
    some (found.groups.take gap ++ List.replicate (8 - found.groups.length) 0
      ++ found.groups.drop gap)
  | none => if found.groups.length = 8 then some found.groups else none

/-- Reads an address of version 6. -/
def readV6? (cs : List Char) : Option (List Nat) :=
  match cs with
  | [] => none
  | [_] => none
  | ':' :: ':' :: rest => (readGroups ⟨[0], some 1⟩ rest 7).bind Groups.fill?
  | ':' :: _ => none
  | cs => (readGroups ⟨[], none⟩ cs 8).bind Groups.fill?

/-! ## Addresses of version 4 -/

/-- The number of a label: in base sixteen behind `0x`, in base eight behind `0`, else in base
ten. -/
def labelNumber? (label : List Char) : Option Nat :=
  let read (base : Nat) (digits : List Char) : Option Nat :=
    digits.foldl (fun n c => do return (← n) * base + (← Address.digit? base c)) (some 0)
  match label with
  | [] => none
  | '0' :: 'x' :: digits => read 16 digits
  | '0' :: 'X' :: digits => read 16 digits
  | '0' :: d :: digits => read 8 (d :: digits)
  | digits => read 10 digits

/-- The labels of a name without the empty one behind a point at the end. -/
def properLabels (name : List Char) : List (List Char) :=
  let all := labels [] name
  if 1 < all.length ∧ all.getLast? = some [] then all.dropLast else all

/-- Whether the last label of a name is a number. -/
def endsInNumber (name : List Char) : Bool :=
  match (properLabels name).getLast? with
  | some label => (label ≠ [] && label.all Char.isDigit) || (labelNumber? label).isSome
  | none => false

/-- The address of at most four numbers, the last of which fills the places that are missing. -/
def addressOfNumbers? (numbers : List Nat) : Option Ipv4 :=
  match numbers.reverse with
  | [] => none
  | last :: front =>
    let places := Nat.pow 256 (4 - front.length)
    if 4 ≤ front.length ∨ front.any (255 < ·) ∨ places ≤ last then none
    else
      let n := front.reverse.foldl (fun n part => n * 256 + part) 0 * places + last
      some ⟨n / (256 * 256 * 256), n / (256 * 256) % 256, n / 256 % 256, n % 256⟩

/-- Reads an address of version 4. -/
def readV4? (name : List Char) : Option Ipv4 :=
  ((properLabels name).mapM labelNumber?).bind addressOfNumbers?

/-! ## Hosts -/

/-- Whether a character may not stand in a folded domain name. -/
def isForbiddenInDomain (c : Char) : Bool :=
  c.toNat ≤ 0x20 || c.toNat == 0x7F || c.isUpper || "#/:<>?@[\\]^|%".toList.contains c

/-- Whether a character may not stand in a host of another scheme. -/
def isForbiddenInHost (c : Char) : Bool := "\x00\t\n\r #/:<>?@[\\]^|".toList.contains c

/-- Reads a domain name or an address of version 4. -/
def readDomain? (cs : List Char) : Option Host := do
  let decoded ← Text.Utf8.decodeChars? (Text.Percent.decode (Text.Utf8.encodeChars cs))
  let name := foldName decoded
  if name = [] ∨ name.any isForbiddenInDomain ∨ !isName name then none
  else
    let written := asciiName name
    if endsInNumber written then (readV4? written).map .v4
    else some (.domain (String.ofList written))

/-- Reads a host. The empty host is read as an empty domain, which only some schemes admit. -/
def readHost? (kind : Kind) (cs : List Char) : Option Host :=
  match cs with
  | '[' :: rest =>
    if rest.getLast? = some ']' then (readV6? rest.dropLast).map .v6 else none
  | cs =>
    if kind.isSpecial then readDomain? cs
    else if cs.any isForbiddenInHost then none
    else some (.domain (escapeText escapedInHost cs))

end ToolGateway.Url
