import ToolGateway.Text.Hex

/-!
# TOML tokens

The tokens of a TOML text, cut from its characters. Strings are decoded here: an escape stands for
a character, a line break inside a long string stands for itself, and a backslash at the end of a
line takes all blanks and line breaks after it away. What is written without quotation marks is a
word, whose meaning depends on its place.

A line ends with a line feed, which a carriage return may precede; alone a carriage return is an
error, and so is any other control character but the tab.
-/

namespace ToolGateway.Toml

/-- A token. -/
inductive Token where
  | dot
  | equals
  | comma
  | openBracket
  | closeBracket
  | openBrace
  | closeBrace
  /-- Spaces and tabs; whether it is just one space. -/
  | blank (single : Bool)
  | comment
  | newline
  /-- A string; whether it has three quotation marks at either end. -/
  | text (s : String) (long : Bool)
  | word (cs : List Char)
  deriving DecidableEq, Repr

/-- A space or a tab. -/
def isBlank (c : Char) : Bool := c = ' ' || c = '\t'

/-- Whether a character may stand in a comment or a string. -/
def isPlain (c : Char) : Bool := c = '\t' || (0x20 ≤ c.toNat && c.toNat ≠ 0x7F)

/-- Whether a character belongs to a word: any but blanks, line breaks and punctuation. -/
def inWord (c : Char) : Bool := !(". = , [ ] \x7b \x7d # \t \n \r \" '".toList.contains c)

/-! ## Strings -/

/-- What a letter after a backslash stands for. -/
def escape? : Char → Option Char
  | 'b' => some '\x08'
  | 't' => some '\t'
  | 'n' => some '\n'
  | 'f' => some '\x0c'
  | 'r' => some '\r'
  | 'e' => some '\x1b'
  | '"' => some '"'
  | '\\' => some '\\'
  | _ => none

/-- The number of hexadecimal digits that a letter after a backslash announces. -/
def announced? : Char → Option Nat
  | 'x' => some 2
  | 'u' => some 4
  | 'U' => some 8
  | _ => none

/-- The character of a code. -/
def ofCode? (n : Nat) : Option Char := if h : n.isValidChar then some (Char.ofNatAux n h) else none

/-- Reads so many hexadecimal digits behind a number. -/
def takeCode (n : Nat) : (digits : Nat) → List Char → Option (Nat × List Char)
  | 0, cs => some (n, cs)
  | _ + 1, [] => none
  | digits + 1, c :: rest =>
    match Text.hexValue? c with
    | some d => takeCode (n * 16 + d) digits rest
    | none => none

/-- Reads what follows a backslash. -/
def takeEscape : List Char → Option (Char × List Char)
  | [] => none
  | c :: rest =>
    match announced? c with
    | some digits =>
      match takeCode 0 digits rest with
      | some (n, rest) => (ofCode? n).map (·, rest)
      | none => none
    | none => (escape? c).map (·, rest)

theorem length_takeCode_le {n digits : Nat} {cs : List Char} {found : Nat × List Char}
    (h : takeCode n digits cs = some found) : found.2.length ≤ cs.length := by
  fun_induction takeCode n digits cs <;> grind

theorem length_takeEscape_le {cs : List Char} {found : Char × List Char}
    (h : takeEscape cs = some found) : found.2.length ≤ cs.length := by
  unfold takeEscape at h
  split at h
  · cases h
  · split at h
    · split at h
      · rename_i h'
        have := length_takeCode_le h'
        obtain ⟨c, _, rfl⟩ := Option.map_eq_some_iff.1 h
        grind
      · cases h
    · obtain ⟨c, _, rfl⟩ := Option.map_eq_some_iff.1 h
      grind

/-- Drops line breaks and blanks. -/
def skipLines : List Char → List Char
  | '\r' :: '\n' :: rest => skipLines rest
  | c :: rest => if isBlank c || c = '\n' then skipLines rest else c :: rest
  | [] => []

theorem length_skipLines_le (cs : List Char) : (skipLines cs).length ≤ cs.length := by
  fun_induction skipLines cs <;> grind

/-- Drops the rest of a line that holds only blanks, and what `skipLines` drops after it. -/
def takeFold? (cs : List Char) : Option (List Char) :=
  match cs.dropWhile isBlank with
  | '\n' :: rest => some (skipLines rest)
  | '\r' :: '\n' :: rest => some (skipLines rest)
  | _ => none

theorem length_dropWhile_le (p : Char → Bool) (cs : List Char) :
    (cs.dropWhile p).length ≤ cs.length := (List.dropWhile_sublist p).length_le

theorem length_takeFold?_le {cs rest : List Char} (h : takeFold? cs = some rest) :
    rest.length ≤ cs.length := by
  have hd := length_dropWhile_le isBlank cs
  unfold takeFold? at h
  split at h
  · rename_i tail heq
    have := length_skipLines_le tail
    grind
  · rename_i tail heq
    have := length_skipLines_le tail
    grind
  · cases h

/-- The length of the run of quotation marks at the front, counted to at most `bound`. -/
def quoteRun (quote : Char) (bound : Nat) (cs : List Char) : Nat :=
  ((cs.take bound).takeWhile (· = quote)).length

/-- A long string ends with three quotation marks, and one or two before them belong to it. -/
def maxQuoteRun : Nat := 5

/-- Reads a string of one line behind its first quotation mark, behind the characters read so far
(the last one first). -/
def takeShort (quote : Char) (done : List Char) : List Char → Option (List Char × List Char)
  | [] => none
  | c :: rest =>
    if c = quote then some (done.reverse, rest)
    else if c = '\\' ∧ quote = '"' then
      match _h : takeEscape rest with
      | some (e, rest) => takeShort quote (e :: done) rest
      | none => none
    else if isPlain c then takeShort quote (c :: done) rest
    else none
termination_by cs => cs.length
decreasing_by
  · have := length_takeEscape_le _h
    grind
  · grind

/-- Reads a string of many lines likewise. -/
def takeLong (quote : Char) (done : List Char) : List Char → Option (List Char × List Char)
  | [] => none
  | '\r' :: '\n' :: rest => takeLong quote ('\n' :: '\r' :: done) rest
  | c :: rest =>
    if c = quote then
      let run := quoteRun quote maxQuoteRun (c :: rest)
      if 3 ≤ run then
        some ((List.replicate (run - 3) quote ++ done).reverse, rest.drop (run - 1))
      else takeLong quote (c :: done) rest
    else if c = '\\' ∧ quote = '"' then
      match _hf : takeFold? rest with
      | some rest => takeLong quote done rest
      | none =>
        match _h : takeEscape rest with
        | some (e, rest) => takeLong quote (e :: done) rest
        | none => none
    else if isPlain c || c = '\n' then takeLong quote (c :: done) rest
    else none
termination_by cs => cs.length
decreasing_by
  · grind
  · grind
  · have := length_takeFold?_le _hf
    grind
  · have := length_takeEscape_le _h
    grind
  · grind

theorem length_takeShort_lt {quote : Char} {done cs : List Char}
    {found : List Char × List Char} (h : takeShort quote done cs = some found) :
    found.2.length < cs.length := by
  fun_induction takeShort quote done cs with
  | case1 => cases h
  | case2 => grind
  | case3 _ _ _ _ _ e rest he ih =>
    have := length_takeEscape_le he
    have := ih h
    grind
  | case4 => cases h
  | case5 _ _ _ _ _ _ ih =>
    have := ih h
    grind
  | case6 => cases h

theorem length_takeLong_lt {quote : Char} {done cs : List Char}
    {found : List Char × List Char} (h : takeLong quote done cs = some found) :
    found.2.length < cs.length := by
  fun_induction takeLong quote done cs <;>
    grind [→ length_takeFold?_le, → length_takeEscape_le]

/-- Drops the line break directly behind the opening of a long string. -/
def skipFirstBreak : List Char → List Char
  | '\n' :: rest => rest
  | '\r' :: '\n' :: rest => rest
  | cs => cs

/-- Reads a string behind its first quotation mark. -/
def takeText (quote : Char) (cs : List Char) : Option (Token × List Char) :=
  if quoteRun quote 2 cs = 2 then
    (takeLong quote [] (skipFirstBreak (cs.drop 2))).map fun (s, rest) =>
      (.text (String.ofList s) true, rest)
  else
    (takeShort quote [] cs).map fun (s, rest) => (.text (String.ofList s) false, rest)

/-! ## Tokens -/

/-- Whether a character ends a comment. -/
def endsLine (c : Char) : Bool := c = '\n' || c = '\r'

/-- Reads the token that begins with a character. -/
def next? (c : Char) (rest : List Char) : Option (Token × List Char) :=
  match c with
  | '.' => some (.dot, rest)
  | '=' => some (.equals, rest)
  | ',' => some (.comma, rest)
  | '[' => some (.openBracket, rest)
  | ']' => some (.closeBracket, rest)
  | '\x7b' => some (.openBrace, rest)
  | '\x7d' => some (.closeBrace, rest)
  | '\n' => some (.newline, rest)
  | '\r' =>
    match rest with
    | '\n' :: rest => some (.newline, rest)
    | _ => none
  | '#' =>
    if (rest.takeWhile (!endsLine ·)).all isPlain then
      some (.comment, rest.dropWhile (!endsLine ·))
    else none
  | '"' => takeText '"' rest
  | '\'' => takeText '\'' rest
  | c =>
    if isBlank c then
      some (.blank (c = ' ' && !(rest.head?.any isBlank)), rest.dropWhile isBlank)
    else some (.word (c :: rest.takeWhile inWord), rest.dropWhile inWord)

theorem length_skipFirstBreak_le (cs : List Char) : (skipFirstBreak cs).length ≤ cs.length := by
  unfold skipFirstBreak
  split <;> grind

theorem length_takeText_le {quote : Char} {cs : List Char} {found : Token × List Char}
    (h : takeText quote cs = some found) : found.2.length ≤ cs.length := by
  unfold takeText at h
  split at h
  · obtain ⟨s, hs, rfl⟩ := Option.map_eq_some_iff.1 h
    have := length_takeLong_lt hs
    have := length_skipFirstBreak_le (cs.drop 2)
    grind
  · obtain ⟨s, hs, rfl⟩ := Option.map_eq_some_iff.1 h
    have := length_takeShort_lt hs
    grind

/-- The token that begins with a character leaves no more than what follows that character. -/
theorem length_next?_le {c : Char} {rest : List Char} {found : Token × List Char}
    (h : next? c rest = some found) : found.2.length ≤ rest.length := by
  unfold next? at h
  split at h
  case h_9 => split at h <;> grind
  case h_10 =>
    have := length_dropWhile_le (!endsLine ·) rest
    split at h
    · cases h; exact this
    · cases h
  case h_11 => exact length_takeText_le h
  case h_12 => exact length_takeText_le h
  case h_13 =>
    split at h
    · cases h; exact length_dropWhile_le isBlank rest
    · cases h; exact length_dropWhile_le inWord rest
  all_goals cases h; exact Nat.le_refl _

/-- Cuts characters into tokens, behind those cut so far (the last one first). -/
def cutTokens (done : List Token) : List Char → Option (List Token)
  | [] => some done.reverse
  | c :: rest =>
    match _h : next? c rest with
    | none => none
    | some (token, rest) => cutTokens (token :: done) rest
termination_by cs => cs.length
decreasing_by exact Nat.lt_succ_of_le (length_next?_le _h)

/-- The tokens of a text. -/
def tokens? (cs : List Char) : Option (List Token) := cutTokens [] cs

end ToolGateway.Toml
