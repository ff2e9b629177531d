import ToolGateway.Json.Basic
import ToolGateway.Number.Shortest
import ToolGateway.Text.Hex

/-!
# Compact JSON text

A value is written without spaces, members in the order in which they are listed. In strings the
quotation mark, the backslash and the characters below the space are escaped and nothing else is.
Doubles have the fewest digits that read back and always a point or an exponent.

Writing puts characters on top of those already written, in reverse, so that long arrays and deep
texts need no stack.
-/

namespace ToolGateway.Json

/-! ## Strings -/

/-- The written form of a character inside a string. -/
def escape (c : Char) : List Char :=
  if c = '"' then ['\\', '"']
  else if c = '\\' then ['\\', '\\']
  else if c = '\n' then ['\\', 'n']
  else if c = '\r' then ['\\', 'r']
  else if c = '\t' then ['\\', 't']
  else if c = '\x08' then ['\\', 'b']
  else if c = '\x0c' then ['\\', 'f']
  else if c.toNat < 0x20 then
    ['\\', 'u', '0', '0', Text.lowerHexDigit (c.toNat / 16), Text.lowerHexDigit (c.toNat % 16)]
  else [c]

/-- The written form of a string. -/
def quoted (s : String) : List Char := '"' :: s.toList.flatMap escape ++ ['"']

/-! ## Numbers -/

/-- Doubles with a decimal exponent from `plainFrom` to `plainTo` are written without exponent. -/
def plainFrom : Int := -5

/-- The greatest decimal exponent of a double written without exponent. -/
def plainTo : Int := 15

/-- Digits as a plain fraction, where the first digit has the place value `10 ^ place`. -/
def plainDigits (digits : List Char) (place : Int) : List Char :=
  if place < 0 then '0' :: '.' :: List.replicate (place.natAbs - 1) '0' ++ digits
  else
    let whole := place.toNat + 1
    if digits.length ≤ whole then digits ++ List.replicate (whole - digits.length) '0' ++ ['.', '0']
    else digits.take whole ++ '.' :: digits.drop whole

/-- Digits with an exponent, where the first digit has the place value `10 ^ place`. -/
def exponentDigits (digits : List Char) (place : Int) : List Char :=
  let front :=
    match digits with
    | first :: more => if more = [] then [first] else first :: '.' :: more
    | [] => []
  front ++ 'e' :: (if place < 0 then '-' else '+') :: (Nat.repr place.natAbs).toList

/-- The written form of a double. -/
def doubleDigits (x : Binary64) : List Char :=
  let magnitude :=
    if x.mantissa = 0 then ['0', '.', '0']
    else
      let decimal := Shortest.ofBinary64 x
      let digits := (Nat.repr decimal.digits).toList
      let place := decimal.exponent + digits.length - 1
      if plainFrom ≤ place ∧ place ≤ plainTo then plainDigits digits place
      else exponentDigits digits place
  if x.negative then '-' :: magnitude else magnitude

/-- The written form of a whole number. -/
def integerDigits (n : Int) : List Char :=
  if n < 0 then '-' :: (Nat.repr n.natAbs).toList else (Nat.repr n.natAbs).toList

/-! ## Values -/

mutual

/-- Writes a value on top of `done`. -/
def writeOnto (done : List Char) : Json → List Char
  | .null => 'l' :: 'l' :: 'u' :: 'n' :: done
  | .bool true => 'e' :: 'u' :: 'r' :: 't' :: done
  | .bool false => 'e' :: 's' :: 'l' :: 'a' :: 'f' :: done
  | .integer n => (integerDigits n).reverse ++ done
  | .double x => (doubleDigits x).reverse ++ done
  | .string s => (quoted s).reverse ++ done
  | .array [] => ']' :: '[' :: done
  | .array (item :: items) => ']' :: writeItemsOnto (item.writeOnto ('[' :: done)) items
  | .object [] => '\x7d' :: '\x7b' :: done
  | .object ((name, v) :: members) =>
    '\x7d' :: writeMembersOnto (v.writeOnto (':' :: ((quoted name).reverse ++ '\x7b' :: done))) members

/-- Writes further items on top of `done`. -/
def writeItemsOnto (done : List Char) : List Json → List Char
  | [] => done
  | item :: items => writeItemsOnto (item.writeOnto (',' :: done)) items

/-- Writes further members on top of `done`. -/
def writeMembersOnto (done : List Char) : List (String × Json) → List Char
  | [] => done
  | (name, v) :: members =>
    writeMembersOnto (v.writeOnto (':' :: ((quoted name).reverse ++ ',' :: done))) members

end

/-- The characters of the text of a value. -/
def chars (v : Json) : List Char := (v.writeOnto []).reverse

/-- The text of a value. -/
def render (v : Json) : String := String.ofList v.chars

end ToolGateway.Json
