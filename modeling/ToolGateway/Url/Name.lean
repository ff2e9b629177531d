import ToolGateway.Text.Punycode
import ToolGateway.Unicode.Composition
import ToolGateway.Unicode.Direction
import ToolGateway.Unicode.Folded
import ToolGateway.Unicode.Graphic
import ToolGateway.Unicode.Joining

/-!
# Names of domains

The labels of a domain are separated by points. The characters of a name are folded and composed,
and then it is written in ASCII: a label with characters beyond is written in Punycode, behind
`xn--`. Such a label is proper if it is the only way to spell what it says: of graphic characters
that do not fold, composed, without a mark at its front and with joiners only where they matter. If
any label runs from right to left, no label may mix directions, so that the labels of a name can be
told apart on sight.
-/

namespace ToolGateway.Url

/-! ## Labels -/

/-- Cuts a name at its points, behind the label begun (the last character first). -/
def labels (begun : List Char) : List Char → List (List Char)
  | [] => [begun.reverse]
  | c :: rest => if c = '.' then begun.reverse :: labels [] rest else labels (c :: begun) rest

/-- Whether a code is that of a joiner, which asks letters to join or not to join. -/
def isJoiner (n : Nat) : Bool := n == 0x200C || n == 0x200D

/-- Characters that are graphic but parts of descriptions or stand-ins for something else. -/
def isStandIn (n : Nat) : Bool :=
  [0x31EF, 0xFFFC, 0xFFFD].contains n || (0x2FF0 ≤ n && n ≤ 0x2FFF)

/-- Characters that would fold to a text with a point in it, where a label would end. -/
def dotted : Unicode.Ranges :=
  [(0x2024, 0x2026), (0x2488, 0x249B), (0x33C2, 0x33C2), (0x33C7, 0x33C7), (0x33D8, 0x33D8),
   (0xFE12, 0xFE12), (0xFE19, 0xFE19), (0xFE30, 0xFE30), (0xFE52, 0xFE52), (0x1F100, 0x1F100)]

/-- Whether a character may stand in a label. -/
def mayStandInLabel (n : Nat) : Bool :=
  n < 0x80 || isJoiner n ||
    (Unicode.isGraphic n && !Unicode.folds n && !dotted.has n && !isStandIn n)

/-- Whether a joiner matters between what stands before it (the last one first) and behind it. -/
def joinerMatters (joiner : Nat) (before after : List Nat) : Bool :=
  let neighbour (codes : List Nat) : Option Nat := (codes.dropWhile Unicode.isTransparent).head?
  before.head?.any Unicode.isVirama ||
    (joiner == 0x200C && (neighbour before).any Unicode.joinsNext &&
      (neighbour after).any Unicode.joinsPrevious)

/-- Whether every joiner matters, behind the codes `before` (the last one first). -/
def joinersMatter (before : List Nat) : List Nat → Bool
  | [] => true
  | n :: after => (!isJoiner n || joinerMatters n before after) && joinersMatter (n :: before) after

/-- The most characters of a label that is not ASCII. -/
def maxLabel : Nat := 1000

/-- Whether codes make a label that is written in Punycode. -/
def isProperLabel (codes : List Nat) : Bool :=
  codes.all mayStandInLabel && !codes.head?.any Unicode.isMark && joinersMatter [] codes &&
    Unicode.isComposed codes && codes.length ≤ maxLabel

/-- The most characters that a label may have behind `xn--`. -/
def maxEncodedLabel : Nat := 2000

/-- Whether a text is ASCII. -/
def isAscii (cs : List Char) : Bool := cs.all (·.toNat < 0x80)

/-- The codes that a label stands for. -/
def labelCodes? (label : List Char) : Option (List Nat) :=
  match label with
  | 'x' :: 'n' :: '-' :: '-' :: text =>
    if text = [] ∨ text.getLast? = some '-' ∨ maxEncodedLabel < text.length ∨ !isAscii text then
      none
    else (Text.Punycode.decode? text).filter isProperLabel
  | label =>
    let codes := label.map Char.toNat
    if isAscii label then some codes else (some codes).filter isProperLabel

/-! ## Directions of labels -/

/-- Whether a direction makes a name one that runs from right to left. -/
def turnsName (d : Unicode.Direction) : Bool := d == .rightToLeft || d == .arabicDigit

/-- Whether the directions behind the first one of a label fit to it; marks at the end do not
matter. -/
def fitsLeftToRight (behind : List Unicode.Direction) : Bool :=
  match behind.reverse.dropWhile (· == .mark) with
  | [] => true
  | last :: middle =>
    (last == .leftToRight || last == .europeanDigit) &&
      middle.all fun d => !(d == .rightToLeft || d == .arabicDigit)

/-- Such directions in a label from right to left, which has digits of one kind only. -/
def fitsRightToLeft (behind : List Unicode.Direction) : Bool :=
  match behind.reverse.dropWhile (· == .mark) with
  | [] => true
  | last :: middle =>
    [.rightToLeft, .europeanDigit, .arabicDigit].contains last &&
      !(last :: middle).contains .leftToRight &&
      !((last :: middle).contains .europeanDigit && (last :: middle).contains .arabicDigit)

/-- Whether a label runs one way. -/
def runsOneWay (label : List Unicode.Direction) : Bool :=
  match label with
  | [] => true
  | .leftToRight :: behind => fitsLeftToRight behind
  | .rightToLeft :: behind => fitsRightToLeft behind
  | _ => false

/-! ## Names -/

/-- A text with its characters folded and composed. -/
def foldName (cs : List Char) : List Char :=
  let small := cs.map Char.toLower
  if isAscii small then small
  else (Unicode.composed (Unicode.folded (small.map Char.toNat))).map Char.ofNat

/-- Whether a folded text is the name of a domain. -/
def isName (name : List Char) : Bool :=
  match (labels [] name).mapM labelCodes? with
  | none => false
  | some all =>
    let directions := all.map fun codes => codes.map Unicode.Direction.of
    !directions.flatten.any turnsName || directions.all runsOneWay

/-- A label in ASCII. -/
def asciiLabel (label : List Char) : List Char :=
  if isAscii label then label
  else 'x' :: 'n' :: '-' :: '-' :: Text.Punycode.encode (label.map Char.toNat)

/-- A name in ASCII. -/
def asciiName (name : List Char) : List Char :=
  ['.'].intercalate ((labels [] name).map asciiLabel)

end ToolGateway.Url
