import ToolGateway.Unicode.Graphic
import ToolGateway.Unicode.Marks

/-!
# Quoted text

Text between quotation marks, in a form that shows everything: quotation marks and backslashes
follow a backslash, line breaks and tabs have letters, and any other character that shows nothing
of its own is given by its code in braces. Such are control and format characters, spaces but the
plain one, codes without a character, letters without a shape, and marks that extend the character
before them.
-/

namespace ToolGateway.Text.Quoted

/-- Letters without a shape of their own, which fill a place in a syllable. -/
def fillers : List Nat := [0x115F, 0x1160, 0x3164, 0xFFA0]

/-- Whether a character is given by its code. -/
def isHidden (c : Char) : Bool :=
  let n := c.toNat
  n < 0x20 || (0x7F ≤ n && (!Unicode.isGraphic n || Unicode.isExtender n || fillers.contains n))

/-- A character as it stands between quotation marks. -/
def encodeChar (c : Char) : List Char :=
  match c with
  | '"' => ['\\', '"']
  | '\\' => ['\\', '\\']
  | '\n' => ['\\', 'n']
  | '\r' => ['\\', 'r']
  | '\t' => ['\\', 't']
  | '\x00' => ['\\', '0']
  | c => if isHidden c then "\\u\x7b".toList ++ Nat.toDigits 16 c.toNat ++ ['\x7d'] else [c]

/-- A text with quotation marks around it. -/
def encode (s : String) : String :=
  String.ofList ('"' :: s.toList.flatMap encodeChar ++ ['"'])

end ToolGateway.Text.Quoted
