import ToolGateway.Text.Hex

/-!
# Internet addresses

Addresses of version 4 and 6, each with a `portNumber`, as configuration has them: four decimal
numbers without leading zeros, or groups of hexadecimal digits with one run of zeros left out,
where the last two groups may be written as an address of version 4. The number follows a colon; an
address of version 6 stands in brackets before it and may name a scope.
-/

namespace ToolGateway

/-- An address of version 4. -/
structure Ipv4 where
  a : Nat
  b : Nat
  c : Nat
  d : Nat
  deriving DecidableEq, Repr

/-- An internet address; version 6 has eight groups. -/
inductive IpAddress where
  | v4 (address : Ipv4)
  | v6 (groups : List Nat)
  deriving DecidableEq, Repr

/-- An address to connect to or to listen at; the scope is zero where none is named. -/
structure SocketAddress where
  ip : IpAddress
  scope : Nat
  portNumber : Nat
  deriving DecidableEq, Repr

/-- Whether an address is the machine's own: `127.0.0.0/8` or `::1`. -/
def IpAddress.isLoopback : IpAddress → Bool
  | .v4 address => address.a == 127
  | .v6 groups => groups == [0, 0, 0, 0, 0, 0, 0, 1]

/-! ## Reading -/

namespace Address

/-- The value of a digit in a base of at most sixteen. -/
def digit? (base : Nat) (c : Char) : Option Nat := (Text.hexValue? c).filter (· < base)

/-- Reads digits: how many there are, their value and the rest. -/
def takeDigits (base : Nat) (count value : Nat) : List Char → Nat × Nat × List Char
  | [] => (count, value, [])
  | c :: rest =>
    match digit? base c with
    | some d => takeDigits base (count + 1) (value * base + d) rest
    | none => (count, value, c :: rest)

/-- Reads a number of one to `maxDigits` digits below a bound. -/
def takeNumber (base maxDigits bound : Nat) (cs : List Char) : Option (Nat × List Char) :=
  let (count, value, rest) := takeDigits base 0 0 cs
  if 1 ≤ count ∧ count ≤ maxDigits ∧ value < bound then some (value, rest) else none

/-- Reads a number below 256 without leading zeros. -/
def takeOctet (cs : List Char) : Option (Nat × List Char) :=
  match cs with
  | '0' :: c :: _ => if (digit? 10 c).isSome then none else takeNumber 10 3 256 cs
  | _ => takeNumber 10 3 256 cs

/-- Reads one character. -/
def takeChar (expected : Char) : List Char → Option (List Char)
  | [] => none
  | c :: rest => if c = expected then some rest else none

/-- Reads an address of version 4. -/
def takeV4 (cs : List Char) : Option (Ipv4 × List Char) := do
  let (a, cs) ← takeOctet cs
  let (b, cs) ← takeOctet (← takeChar '.' cs)
  let (c, cs) ← takeOctet (← takeChar '.' cs)
  let (d, cs) ← takeOctet (← takeChar '.' cs)
  return (⟨a, b, c, d⟩, cs)

/-- The two groups that an address of version 4 stands for. -/
def Ipv4.groups (address : Ipv4) : List Nat :=
  [address.a * 256 + address.b, address.c * 256 + address.d]

/-- The groups found, whether the last two were written as version 4, and the rest. -/
structure Groups where
  groups : List Nat
  endsInV4 : Bool
  rest : List Char
  deriving DecidableEq, Repr

/-- Reads at most `room` further groups behind those read so far. -/
def takeGroups (done : List Nat) (cs : List Char) : (room : Nat) → Groups
  | 0 => ⟨done, false, cs⟩
  | room + 1 =>
    let start := if done = [] then some cs else takeChar ':' cs
    let asV4 := if room = 0 then none else start.bind takeV4
    match asV4 with
    | some (address, rest) => ⟨done ++ Ipv4.groups address, true, rest⟩
    | none =>
      match start.bind (takeNumber 16 4 65536) with
      | some (group, rest) => takeGroups (done ++ [group]) rest room
      | none => ⟨done, false, cs⟩

/-- Reads an address of version 6. -/
def takeV6 (cs : List Char) : Option (List Nat × List Char) :=
  let front := takeGroups [] cs 8
  if front.groups.length = 8 then some (front.groups, front.rest)
  else if front.endsInV4 then none
  else do
    let rest ← takeChar ':' (← takeChar ':' front.rest)
    let back := takeGroups [] rest (7 - front.groups.length)
    let zeros := List.replicate (8 - front.groups.length - back.groups.length) 0
    return (front.groups ++ zeros ++ back.groups, back.rest)

/-- Reads a colon and a `portNumber`. -/
def takePort (cs : List Char) : Option (Nat × List Char) := do
  let rest ← takeChar ':' cs
  takeNumber 10 rest.length 65536 rest

/-- Reads a scope, which is zero where none is named. -/
def takeScope : List Char → Option (Nat × List Char)
  | '%' :: rest => takeNumber 10 rest.length UInt32.size rest
  | cs => some (0, cs)

end Address

/-- Reads an address. -/
def IpAddress.parse? (s : String) : Option IpAddress :=
  match Address.takeV4 s.toList with
  | some (address, []) => some (.v4 address)
  | _ =>
    match Address.takeV6 s.toList with
    | some (groups, []) => some (.v6 groups)
    | _ => none

/-- Reads an address of version 4 with a `portNumber`. -/
def SocketAddress.parseV4? (cs : List Char) : Option SocketAddress := do
  let (address, cs) ← Address.takeV4 cs
  let (portNumber, cs) ← Address.takePort cs
  if cs = [] then return ⟨.v4 address, 0, portNumber⟩ else none

/-- Reads an address of version 6 in brackets with a `portNumber`. -/
def SocketAddress.parseV6? (cs : List Char) : Option SocketAddress := do
  let (groups, cs) ← Address.takeV6 (← Address.takeChar '[' cs)
  let (scope, cs) ← Address.takeScope cs
  let (portNumber, cs) ← Address.takePort (← Address.takeChar ']' cs)
  if cs = [] then return ⟨.v6 groups, scope, portNumber⟩ else none

/-- Reads an address of either version with a `portNumber`. -/
def SocketAddress.parse? (s : String) : Option SocketAddress :=
  match SocketAddress.parseV4? s.toList with
  | some address => some address
  | none => SocketAddress.parseV6? s.toList

/-! ## Writing -/

namespace Address

/-- The digits of a number in base sixteen, at most four. -/
def hexDigits (n : Nat) : List Char := (Nat.toDigits 16 n)

/-- Groups with colons between. -/
def joinGroups (groups : List Nat) : List Char :=
  List.intercalate [':'] (groups.map hexDigits)

/-- The length of the run of zeros at the front. -/
def zeroRun (groups : List Nat) : Nat := (groups.takeWhile (· == 0)).length

/-- The first of the longest runs of zeros: its place and length. -/
def longestZeroRun (groups : List Nat) : Nat × Nat :=
  (List.range groups.length).foldl (fun best place =>
    let run := zeroRun (groups.drop place)
    if best.2 < run then (place, run) else best) (0, 0)

/-- Groups with the first of the longest runs of zeros left out, if it has two zeros or more. -/
def compressGroups (groups : List Nat) : List Char :=
  let (place, run) := longestZeroRun groups
  if 2 ≤ run then
    joinGroups (groups.take place) ++ [':', ':'] ++ joinGroups (groups.drop (place + run))
  else joinGroups groups

/-- The text of an address of version 4. -/
def Ipv4.chars (address : Ipv4) : List Char :=
  List.intercalate ['.']
    ([address.a, address.b, address.c, address.d].map fun n => (Nat.repr n).toList)

end Address

/-- The text of an address. An address of version 4 that is mapped into version 6 is shown in its
own form behind `::ffff:`. -/
def IpAddress.chars : IpAddress → List Char
  | .v4 address => Address.Ipv4.chars address
  | .v6 groups =>
    match groups with
    | [0, 0, 0, 0, 0, 0xffff, high, low] =>
      "::ffff:".toList ++ Address.Ipv4.chars ⟨high / 256, high % 256, low / 256, low % 256⟩
    | groups => Address.compressGroups groups

/-- The text of an address with its `portNumber`. -/
def SocketAddress.render (s : SocketAddress) : String :=
  let portChars := ':' :: (Nat.repr s.portNumber).toList
  String.ofList <|
    match s.ip with
    | .v4 _ => s.ip.chars ++ portChars
    | .v6 _ =>
      let scope := if s.scope = 0 then [] else '%' :: (Nat.repr s.scope).toList
      '[' :: s.ip.chars ++ scope ++ ']' :: portChars

end ToolGateway
