import ToolGateway.Audit
import ToolGateway.Proofs.Json.Values

/-!
# Audit records read back

A record is printed on one line, whatever its texts hold, and read back from it as it was: no name
of a caller or of a tool can end a record early or look like another field of it.
-/

namespace ToolGateway.Audit

open Json (Document literalOf maxDepth piecesOf printedMembers)

/-- The numbers of a record fit into the words that hold them. -/
structure Entry.Fits (e : Entry) : Prop where
  latency : e.details.latency < Nat.pow 2 64
  status : ∀ status ∈ e.details.status, status < Nat.pow 2 16
  timestamp : e.timestamp < Nat.pow 2 128

/-! ## Printed records -/

/-- The members as which details are printed. -/
def Details.printed (d : Details) : List (String × Document) :=
  [("outcome", .string (piecesOf d.outcome.name)), ("latency_ms", .number (literalOf d.latency))] ++
    (d.status.map fun status => ("upstream_status", Document.number (literalOf status))).toList

/-- The members as which a record is printed. -/
def Entry.printed (e : Entry) : List (String × Document) :=
  [("actor", .string (piecesOf e.actor)), ("action", .string (piecesOf e.action)),
    ("resource_id", .string (piecesOf e.resource)),
    ("details", .object (printedMembers e.details.printed)),
    ("timestamp_ms", .number (literalOf e.timestamp))]

/-- A record is printed as the object of these members. -/
theorem Entry.document?_toJson (e : Entry) :
    e.toJson.document? = some (.object (printedMembers e.printed)) := by
  obtain ⟨actor, action, resource, ⟨outcome, latency, status⟩, timestamp⟩ := e
  cases status <;> rfl

/-- An outcome is found by its name. -/
theorem lookup_named (o : Outcome) : Outcome.named.lookup o.name = some o := by
  cases o <;> decide +kernel

/-- Printed details are read back. -/
theorem Details.ofDocument?_printed {depth : Nat} (hdepth : depth ≠ 0) {d : Details}
    (hlatency : d.latency < Nat.pow 2 64) (hstatus : ∀ status ∈ d.status, status < Nat.pow 2 16) :
    Details.ofDocument? depth (.object (printedMembers d.printed)) = some d := by
  obtain ⟨outcome, latency, status⟩ := d
  have hrecord : Record.ofMembers? ["outcome", "latency_ms", "upstream_status"]
      (printed ⟨outcome, latency, status⟩) = some ⟨true, printed ⟨outcome, latency, status⟩⟩ := by
    cases status <;> simp [Record.ofMembers?, printed]
  have houtcome : outcome? (depth - 1) (.string (piecesOf outcome.name)) = some outcome := by
    rw [outcome?, Document.choice?, Json.text?_piecesOf, Option.bind_some, lookup_named]
  have hread := Json.word?_literalOf hlatency
  rw [Details.ofDocument?, Json.record?_printedMembers hdepth, hrecord]
  cases status with
  | none => simp [Record.required, Record.optional, Record.find?, printed, houtcome, hread]
  | some status =>
    have hreadStatus := Json.word?_literalOf (hstatus status rfl)
    simp [Record.required, Record.optional, Record.find?, printed, houtcome, hread, hreadStatus,
      Document.orNull]

/-- A printed record is read back. -/
theorem Entry.ofDocument?_printed {e : Entry} (h : e.Fits) :
    Entry.ofDocument? (.object (printedMembers e.printed)) = some e := by
  have hdepth : maxDepth ≠ 0 := by decide
  have hinner : maxDepth - 1 ≠ 0 := by decide
  have hrecord : Record.ofMembers? ["actor", "action", "resource_id", "details", "timestamp_ms"]
      e.printed = some ⟨true, e.printed⟩ := by
    simp [Record.ofMembers?, printed]
  have hdetails := Details.ofDocument?_printed hinner h.latency h.status
  have htimestamp := Json.word?_literalOf h.timestamp
  rw [Entry.ofDocument?, Json.record?_printedMembers hdepth, hrecord]
  simp [Record.required, Record.find?, printed, Document.string?, Json.text?_piecesOf, hdetails,
    htimestamp]

/-! ## Lines -/

/-- The line of a record is read back. -/
theorem Entry.parse?_render {e : Entry} (h : e.Fits) :
    Entry.parse? (Text.Utf8.encode e.toJson.render) = some e := by
  have hspelled := Json.spelledBy_render e.document?_toJson
  rw [Entry.parse?, Document.parse?_eq_some_iff.mpr hspelled, Option.bind_some,
    Entry.ofDocument?_printed h]

/-- It ends with its only line feed. -/
theorem Entry.encode_line (e : Entry) :
    Text.Utf8.encode e.line = Text.Utf8.encode e.toJson.render ++ [0x0A] ∧
      0x0A ∉ Text.Utf8.encode e.toJson.render := by
  constructor
  · rw [line, Text.Utf8.encode, Text.Utf8.encode, String.toList_append, Text.Utf8.encodeChars,
      List.flatMap_append]
    rfl
  · intro hmem
    rw [Text.Utf8.encode, Json.render, String.toList_ofList] at hmem
    have hfeed := Text.Utf8.mem_of_mem_encodeChars hmem (by decide)
    exact absurd ((Json.prints_chars e.document?_toJson).noControl _ hfeed) (by decide)

end ToolGateway.Audit
