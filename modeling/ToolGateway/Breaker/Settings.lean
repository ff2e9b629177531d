import ToolGateway.Breaker.Basic
import ToolGateway.Json.Record
import ToolGateway.Text.Blank
import ToolGateway.Time

/-!
# Breaker settings as text

A tool server may carry its breaker settings as a JSON text. A text that is absent, blank or null
gives the standard settings; so does each field that is absent, null or zero.
-/

namespace ToolGateway.Breaker.Settings

/-- Five failures open a breaker for thirty seconds. -/
def standard : Settings := ⟨5, 30 * Time.second⟩

/-- The fields of written settings. -/
def fieldNames : List String := ["fail_threshold", "open_duration_s"]

/-- A given number, or the standard one where none or zero is given. -/
def positiveOr (otherwise : Nat) (given : Option Nat) : Nat :=
  (given.filter (0 < ·)).getD otherwise

/-- Settings with a threshold and a blackout in seconds. -/
def ofFields (threshold seconds : Option Nat) : Settings :=
  ⟨positiveOr standard.threshold threshold,
    ((seconds.filter (0 < ·)).map (· * Time.second)).getD standard.blackout⟩

/-- The settings of a JSON document. -/
def ofDocument? : Json.Document → Option Settings
  | .null => some standard
  | document => do
    let r ← document.record? Json.maxDepth fieldNames
    let threshold ← r.withDefault "fail_threshold" none (Json.Document.orNull (·.word? 32))
    let seconds ← r.withDefault "open_duration_s" none (Json.Document.orNull (·.word? 64))
    return ofFields threshold seconds

/-- The settings that a tool server carries, or nothing where the text is malformed. -/
def parse? (text : Option String) : Option Settings :=
  match (text.map Text.trim).filter (· ≠ "") with
  | none => some standard
  | some text => (Json.Document.parse? (Text.Utf8.encode text)).bind ofDocument?

end ToolGateway.Breaker.Settings
