import ToolGateway.Toml.Draft
import ToolGateway.Toml.Scalar
import ToolGateway.Toml.Token

/-!
# TOML documents

A document is read one token at a time by a machine with an explicit stack of the arrays and braced
tables that are still open, so its steps need no recursion. Line breaks and comments mean nothing
inside of those; elsewhere a pair or a header takes exactly one line.

A word is read up to the first token that cannot belong to it. A point cuts words in two, and so
does the space between a date and a time of day; both are put together again here.
-/

namespace ToolGateway.Toml

/-- What a key belongs to, and an array or braced table that is still open: the parts read so far,
the last one first. -/
inductive Frame where
  /-- A header, of a table or of a list of tables. -/
  | header (listed : Bool)
  /-- A pair on a line of its own. -/
  | line
  /-- An array. -/
  | items (done : List Toml)
  /-- A braced table. -/
  | members (done : List (Key × Toml))
  deriving Repr

/-- What may come next inside of a line. The stack lists the innermost frame first; a pair whose
value is being read stands on it with its key. -/
inductive Place where
  /-- A line. -/
  | start
  /-- The second bracket of a header, or its key. -/
  | bracket
  /-- A part of a key, behind those read so far (the last one first). -/
  | part (names : List String)
  /-- A point, or the end of a key. -/
  | afterPart (names : List String)
  /-- The second closing bracket of a header. -/
  | closing
  /-- A value. -/
  | value
  /-- An item of an array, or its end. -/
  | item
  /-- A member of a braced table, or its end. -/
  | member
  /-- More of a word. -/
  | word (cs : List Char)
  /-- The time of day behind a date and a space, or what follows a date. -/
  | time (date : List Char)
  /-- What follows a value. -/
  | after (value : Toml)
  /-- The end of the line. -/
  | lineEnd

/-- A line that was read. -/
inductive Line where
  | header (key : Key) (listed : Bool)
  | pair (key : Key) (value : Toml)

/-- The state of the reading. -/
structure State where
  place : Place
  /-- What is open, the innermost frame first, each with the key of the pair that is being read. -/
  frames : List (Frame × Option Key)
  /-- The lines read so far, the last one first. -/
  lines : List Line

namespace State

/-- The state before the first token. -/
def initial : State := ⟨.start, [], []⟩

/-- Goes on at another place. -/
def goTo (s : State) (place : Place) : Option State := some { s with place }

/-- Opens a frame. -/
def openFrame (s : State) (frame : Frame) (place : Place) : Option State :=
  if maxDepth < s.frames.length then none
  else some { s with place, frames := (frame, none) :: s.frames }

/-- The key that ends here. -/
def key? (names : List String) : Option Key :=
  if names.length ≤ maxDepth then Key.ofNames? names.reverse else none

/-- Whether the characters of a word may be a name. -/
def isName (cs : List Char) : Bool := cs.all fun c => c.isAlphanum || c = '-' || c = '_'

/-- Takes the first token of a value. -/
def onValue (s : State) : Token → Option State
  | .text content _ => s.goTo (.after (.text content))
  | .word cs => s.goTo (.word cs)
  | .dot => s.goTo (.word ['.'])
  | .openBracket => s.openFrame (.items []) .item
  | .openBrace => s.openFrame (.members []) .member
  | _ => none

/-- Takes a part of a key. -/
def onPart (s : State) (names : List String) : Token → Option State
  | .word cs => if isName cs then s.goTo (.afterPart (String.ofList cs :: names)) else none
  | .text content false => s.goTo (.afterPart (content :: names))
  | .blank _ => s.goTo (.part names)
  | _ => none

/-- Takes what follows a part of a key. -/
def onAfterPart (s : State) (names : List String) (token : Token) : Option State :=
  match token, s.frames with
  | .blank _, _ => s.goTo (.afterPart names)
  | .dot, _ => s.goTo (.part names)
  | .closeBracket, (.header listed, _) :: _ =>
    (key? names).map fun key =>
      if listed then { s with place := .closing, lines := .header key true :: s.lines }
      else { s with place := .lineEnd, frames := [], lines := .header key false :: s.lines }
  | .equals, (.line, _) :: frames =>
    (key? names).map fun key => { s with place := .value, frames := (.line, some key) :: frames }
  | .equals, (.members done, _) :: frames =>
    (key? names).map fun key =>
      { s with place := .value, frames := (.members done, some key) :: frames }
  | _, _ => none

/-- Takes what follows a value. -/
def onAfter (s : State) (value : Toml) (token : Token) : Option State :=
  match s.frames with
  | (.items done, _) :: frames =>
    match token with
    | .blank _ | .comment | .newline => s.goTo (.after value)
    | .comma => some { s with place := .item, frames := (.items (value :: done), none) :: frames }
    | .closeBracket =>
      some { s with place := .after (.array (value :: done).reverse), frames }
    | _ => none
  | (.members done, some key) :: frames =>
    match token with
    | .blank _ | .comment | .newline => s.goTo (.after value)
    | .comma =>
      some { s with place := .member, frames := (.members ((key, value) :: done), none) :: frames }
    | .closeBrace =>
      (ofPairs? ((key, value) :: done).reverse).map fun table =>
        { s with place := .after table, frames }
    | _ => none
  | (.line, some key) :: frames =>
    match token with
    | .blank _ | .comment => s.goTo (.after value)
    | .newline => some { place := .start, frames, lines := .pair key value :: s.lines }
    | _ => none
  | _ => none

/-- Ends a word in front of a token. -/
def onWordEnd (s : State) (cs : List Char) (token : Token) : Option State :=
  (ofWord? cs).bind fun value => s.onAfter value token

/-- Takes one token. -/
def step (s : State) (token : Token) : Option State :=
  match s.place with
  | .start =>
    match token with
    | .blank _ | .comment | .newline => some s
    | .openBracket => s.goTo .bracket
    | token => { s with frames := [(.line, none)] }.onPart [] token
  | .bracket =>
    match token with
    | .openBracket => some { s with place := .part [], frames := [(.header true, none)] }
    | token => { s with frames := [(.header false, none)] }.onPart [] token
  | .part names => s.onPart names token
  | .afterPart names => s.onAfterPart names token
  | .closing =>
    match token with
    | .closeBracket => some { s with place := .lineEnd, frames := [] }
    | _ => none
  | .value =>
    match token with
    | .blank _ => some s
    | token => s.onValue token
  | .item =>
    match token, s.frames with
    | .blank _, _ | .comment, _ | .newline, _ => some s
    | .closeBracket, (.items done, _) :: frames =>
      some { s with place := .after (.array done.reverse), frames }
    | token, _ => s.onValue token
  | .member =>
    match token, s.frames with
    | .blank _, _ | .comment, _ | .newline, _ => some s
    | .closeBrace, (.members done, _) :: frames =>
      (ofPairs? done.reverse).map fun table => { s with place := .after table, frames }
    | token, _ => s.onPart [] token
  | .word cs =>
    match token with
    | .word more => s.goTo (.word (cs ++ more))
    | .dot => s.goTo (.word (cs ++ ['.']))
    | .blank true => if isDate cs then s.goTo (.time cs) else s.onWordEnd cs token
    | token => s.onWordEnd cs token
  | .time date =>
    match token with
    | .word more =>
      if more.head?.any Char.isDigit then s.goTo (.word (date ++ ' ' :: more)) else none
    | token => s.onWordEnd date token
  | .after value => s.onAfter value token
  | .lineEnd =>
    match token with
    | .blank _ | .comment => some s
    | .newline => s.goTo .start
    | _ => none

end State

/-! ## From lines to sections -/

/-- Sorts lines into the pairs at the head and the sections, behind the section begun: reading
goes from the last line to the first, and `pairs` are those that follow. -/
def sectionsOf (pairs : List (Key × Toml)) (sections : List Section) :
    List Line → List (Key × Toml) × List Section
  | [] => (pairs, sections)
  | .pair key value :: lines => sectionsOf ((key, value) :: pairs) sections lines
  | .header key listed :: lines => sectionsOf [] (⟨key, listed, pairs⟩ :: sections) lines

/-- The mark that may stand in front of a text. -/
def byteOrderMark : Char := Char.ofNat 0xFEFF

/-- The characters of a text without the mark in front. -/
def withoutMark : List Char → List Char
  | c :: rest => if c = byteOrderMark then rest else c :: rest
  | [] => []

/-- The table that a text describes. The end of the text ends its last line. -/
def parse? (text : String) : Option Toml := do
  let tokens ← tokens? (withoutMark text.toList)
  let final ← (tokens ++ [Token.newline]).foldlM State.step State.initial
  match final.place with
  | .start =>
    let (pairs, sections) := sectionsOf [] [] final.lines
    ofSections? pairs sections
  | _ => none

end ToolGateway.Toml
