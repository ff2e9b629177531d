import ToolGateway.Json.Printer
import ToolGateway.Unicode.Direction
import ToolGateway.Unicode.Graphic

/-!
# Log lines

A record has a level, the part of the program that it comes from, a message and some fields. A
filter says which records are written: of its directives that fit the origin of a record the one
with the longest origin decides, and of two with the same origin the later.

Records are written as text or as JSON, one a line. The time is left to whoever collects the lines.
-/

namespace ToolGateway.Log

/-- How bad something is. -/
inductive Level where
  | error
  | warning
  | information
  | debug
  | trace
  deriving DecidableEq, Repr

/-- The place of a level, from the worst on. -/
def Level.rank : Level → Nat
  | .error => 1
  | .warning => 2
  | .information => 3
  | .debug => 4
  | .trace => 5

/-- How a level is written. -/
def Level.shown : Level → String
  | .error => "ERROR"
  | .warning => "WARN"
  | .information => "INFO"
  | .debug => "DEBUG"
  | .trace => "TRACE"

/-- One record. -/
structure Record where
  level : Level
  /-- The part of the program that it comes from. -/
  origin : String
  message : String
  fields : List (String × Json)

/-! ## Filters -/

/-- The least bad level that is written; nothing is written without one. -/
abbrev Threshold := Option Level

/-- Whether records of a level are written. -/
def Threshold.admits (threshold : Threshold) (level : Level) : Bool :=
  threshold.any fun least => level.rank ≤ least.rank

/-- All thresholds by name. -/
def Threshold.named : List (String × Threshold) :=
  ("off", none) ::
    [Level.error, .warning, .information, .debug, .trace].map fun level =>
      (level.shown.toLower, some level)

/-- All thresholds by rank. -/
def Threshold.ranked : List (Nat × Threshold) :=
  (0, none) ::
    [Level.error, .warning, .information, .debug, .trace].map fun level => (level.rank, some level)

/-- Reads a number, which a plus sign may precede. -/
def readRank? (cs : List Char) : Option Nat :=
  let digits :=
    match cs with
    | '+' :: rest => rest
    | cs => cs
  if digits ≠ [] ∧ digits.all Char.isDigit then
    some (digits.foldl (fun n c => n * 10 + (c.toNat - 0x30)) 0)
  else none

/-- Reads a threshold: its rank, or its name in capitals or small letters. -/
def Threshold.parse? (cs : List Char) : Option Threshold :=
  match (readRank? cs).bind fun rank => ranked.lookup rank with
  | some threshold => some threshold
  | none => named.lookup (String.ofList cs).toLower

/-- Everything is written. -/
def everything : Threshold := some .trace

/-- A threshold for the records of some origins. -/
structure Directive where
  /-- How the origins begin. -/
  origin : String
  threshold : Threshold
  deriving DecidableEq, Repr

/-- Whether a directive is about an origin. -/
def Directive.covers (d : Directive) (origin : String) : Bool :=
  d.origin.toList.isPrefixOf origin.toList

/-- Whether a character is a letter or a digit: beyond ASCII those that have a direction. -/
def isAlphanumeric (c : Char) : Bool :=
  let n := c.toNat
  if n < 0x80 then c.isAlphanum
  else Unicode.isGraphic n && Unicode.Direction.of n ≠ .mark && Unicode.Direction.of n ≠ .neutral

/-- Whether a directive may begin with a character. -/
def beginsDirective (c : Char) : Bool := isAlphanumeric c || c = '_' || c = ':' || c = '-'

/-- Reads a directive: a threshold, an origin, or both with a sign of equality between. -/
def Directive.parse? (s : String) : Option Directive :=
  let origin := s.toList.takeWhile (· ≠ '=')
  let level := (s.toList.dropWhile (· ≠ '=')).drop 1
  if !s.toList.head?.any beginsDirective then none
  else
    match Threshold.parse? s.toList with
    | some threshold => some ⟨"", threshold⟩
    | none =>
      if level = [] then some ⟨String.ofList origin, everything⟩
      else (Threshold.parse? level).map fun threshold => ⟨String.ofList origin, threshold⟩

/-- A list of directives. -/
abbrev Filter := List Directive

namespace Filter

/-- The filter where none is given, or none that can be read. -/
def standard : Filter := [⟨"", some .information⟩]

/-- Reads directives with commas between; where there are none only errors are written. -/
def parse? (s : String) : Option Filter :=
  match (s.splitOn ",").filter (· ≠ "") with
  | [] => some [⟨"", some .error⟩]
  | parts => parts.mapM Directive.parse?

/-- The filter of an environment variable. -/
def ofVariable (value : Option String) : Filter := (value.bind parse?).getD standard

/-- Of two directives the one that decides, where the second comes later. -/
def prefer (earlier : Option Directive) (later : Directive) : Option Directive :=
  match earlier with
  | none => some later
  | some d => if later.origin.length < d.origin.length then some d else some later

/-- The directive that decides about an origin. -/
def deciding? (filter : Filter) (origin : String) : Option Directive :=
  (filter.filter (·.covers origin)).foldl prefer none

/-- Whether a record is written. -/
def admits (filter : Filter) (r : Record) : Bool :=
  (filter.deciding? r.origin).any fun d => d.threshold.admits r.level

end Filter

/-! ## Writing -/

/-- How records are written. -/
inductive Format where
  | text
  | json
  deriving DecidableEq, Repr

/-- All formats by name. -/
def Format.named : List (String × Format) := [("text", .text), ("json", .json)]

/-- A field in a line of text. -/
def shownField (field : String × Json) : String :=
  " " ++ field.1 ++ "=" ++
    match field.2 with
    | .string s => s
    | value => value.render

/-- The line of a record. -/
def Record.line (r : Record) : Format → String
  | .text =>
    r.level.shown ++ " " ++ r.origin ++ ": " ++ r.message ++ String.join (r.fields.map shownField)
  | .json =>
    (Json.object [("level", .string r.level.shown),
      ("fields", .object (("message", .string r.message) :: r.fields)),
      ("target", .string r.origin)]).render

end ToolGateway.Log
