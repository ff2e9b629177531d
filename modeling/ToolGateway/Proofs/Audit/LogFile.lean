import ToolGateway.Audit.LogFile
import ToolGateway.Proofs.Audit.ReadBack
import ToolGateway.Proofs.Gateway.AuditTrail

/-!
# One record on each line

The lock keeps lines whole: while calls share a log file, what was written and what its holder has
still to write are the lines of the records for which the lock was taken, in that order
(`LogFile.written_run?`). A line ends with its only line feed, so the log is cut into its lines at
line feeds, and each line is read back as its record.
-/

namespace ToolGateway.Audit

/-- The text of records, line after line. -/
def linesOf (entries : List Entry) : Bytes := entries.flatMap fun e => Text.Utf8.encode e.line

/-! ## Cutting into lines -/

/-- Behind a text that ends with a line feed begins a line. -/
theorem splitOn_append {bytes : Bytes} (h : bytes = [] ∨ bytes.getLast? = some 0x0A) (more : Bytes) :
    (bytes ++ more).splitOn 0x0A = (bytes.splitOn 0x0A).dropLast ++ more.splitOn 0x0A := by
  rcases h with rfl | h
  · rfl
  · obtain ⟨front, rfl⟩ := List.getLast?_eq_some_iff.mp h
    rw [List.append_assoc, List.singleton_append, List.splitOn, List.splitOn, List.splitOn,
      List.splitOnP_append_cons front more (by simp), List.splitOnP_append_cons front [] (by simp)]
    simp

/-- The text of records is cut into the texts of the records. -/
theorem splitOn_linesOf (entries : List Entry) :
    (linesOf entries).splitOn 0x0A =
      entries.map (fun e => Text.Utf8.encode e.toJson.render) ++ [[]] := by
  induction entries with
  | nil => rfl
  | cons e entries ih =>
    obtain ⟨hline, hfeed⟩ := e.encode_line
    have hplain : ∀ b ∈ Text.Utf8.encode e.toJson.render, (b == 0x0A) = false := by
      intro b hb
      simpa using fun heq : b = 0x0A => hfeed (heq ▸ hb)
    rw [linesOf, List.flatMap_cons, ← linesOf, hline, List.append_assoc, List.singleton_append,
      List.splitOn, List.splitOnP_append_cons_of_forall_mem hplain _ (by simp), ← List.splitOn, ih]
    rfl

/-- The records are read back from their texts. -/
theorem map_parse?_render {entries : List Entry} (h : ∀ e ∈ entries, e.Fits) :
    (entries.map fun e => Text.Utf8.encode e.toJson.render).map Entry.parse? =
      entries.map some := by
  rw [List.map_map]
  exact List.map_congr_left fun e he => Entry.parse?_render (h e he)

namespace LogFile

/-! ## Sharing the file -/

variable {file file' : LogFile} {actions : List Action}

/-- The records for which the lock is taken, in that order. -/
def taken (actions : List Action) : List Entry :=
  actions.filterMap fun
    | .take entry => some entry
    | _ => none

/-- What is written and what the holder of the lock has still to write. -/
def written (file : LogFile) : Bytes := file.content ++ file.holder.getD []

/-- A step that does not fail adds the line of the record for which it takes the lock, if it takes
it. -/
theorem written_step? {action : Action} (h : file.step? action = some file')
    (hfail : action ≠ .fail) : file'.written = file.written ++ linesOf (taken [action]) := by
  unfold step? at h
  split at h
  -- Only `take` brings new bytes: `write` moves some from what is left to the content.
  · obtain rfl := Option.some.inj h
    simp [written, taken, linesOf]
  · obtain rfl := Option.some.inj h
    simp [written, taken, linesOf]
  · obtain rfl := Option.some.inj h
    simp [written, taken, linesOf]
  · exact absurd rfl hfail
  · cases h

/-- Steps that do not fail add the lines of the records for which they take the lock. -/
theorem written_run? (h : file.run? actions = some file') (hfail : .fail ∉ actions) :
    file'.written = file.written ++ linesOf (taken actions) := by
  induction actions generalizing file with
  | nil =>
    obtain rfl := Option.some.inj h
    simp [taken, linesOf]
  | cons action actions ih =>
    obtain ⟨next, hstep, hrun⟩ := Option.bind_eq_some_iff.mp h
    obtain ⟨hfirst, hmore⟩ := not_or.mp (List.mem_cons.not.mp hfail)
    have htaken : linesOf (taken (action :: actions)) =
        linesOf (taken [action]) ++ linesOf (taken actions) := by
      rw [linesOf, linesOf, linesOf, ← List.flatMap_append, taken, taken, taken,
        ← List.filterMap_append, List.singleton_append]
    rw [ih hrun hmore, written_step? hstep (Ne.symm hfirst), htaken, List.append_assoc]

/-- The steps that write records one after the other, each at once. -/
def inTurn (entries : List Entry) : List Action :=
  entries.flatMap fun e => [.take e, .write (Text.Utf8.encode e.line).length, .release]

/-- They are steps that can be taken. -/
theorem run?_inTurn (entries : List Entry) (content : Bytes) :
    (ofContent content).run? (inTurn entries) = some (ofContent (content ++ linesOf entries)) := by
  induction entries generalizing content with
  | nil => simp [inTurn, linesOf, run?]
  | cons e entries ih =>
    rw [inTurn, List.flatMap_cons, ← inTurn, linesOf, List.flatMap_cons, ← linesOf,
      ← List.append_assoc, ← ih]
    simp [run?, ofContent]

/-- They take the lock for these records. -/
theorem taken_inTurn (entries : List Entry) : taken (inTurn entries) = entries := by
  induction entries with
  | nil => rfl
  | cons e entries ih =>
    rw [inTurn, List.flatMap_cons, ← inTurn, taken, List.filterMap_append, ← taken, ← taken, ih]
    rfl

/-! ## The log -/

/-- However the calls that share a log file take turns, if no write fails then the log has the
lines of their records in the order in which the lock was taken. It is one record on each line: a
line ends with its only line feed, no line is joined with what stood in the log before, and the
lines are read back as the records. -/
theorem content_run?_and_read_back (content : Bytes) (entries : List Entry)
    (hcontent : content = [] ∨ content.getLast? = some 0x0A) (hfits : ∀ e ∈ entries, e.Fits) :
    (∃ actions file, taken actions = entries ∧ .fail ∉ actions ∧
      (ofContent content).run? actions = some file ∧ file.holder = none) ∧
    ∀ actions file, taken actions = entries → .fail ∉ actions →
      (ofContent content).run? actions = some file → file.holder = none →
        file.content = content ++ linesOf entries ∧
        (∀ e ∈ entries, ∃ front, Text.Utf8.encode e.line = front ++ [0x0A] ∧ 0x0A ∉ front) ∧
        file.content.splitOn 0x0A =
          (content.splitOn 0x0A).dropLast ++ (linesOf entries).splitOn 0x0A ∧
        ∃ pieces, (linesOf entries).splitOn 0x0A = pieces ++ [[]] ∧
          pieces.map Entry.parse? = entries.map some := by
  constructor
  · refine ⟨inTurn entries, _, taken_inTurn entries, ?_, run?_inTurn entries content, rfl⟩
    simp [inTurn]
  · intro actions file htaken hfail hrun hdone
    have hwritten := written_run? hrun hfail
    have hall : file.content = content ++ linesOf entries := by
      simpa [written, hdone, htaken, ofContent] using hwritten
    refine ⟨hall, fun e _ => ⟨_, e.encode_line⟩, ?_, _, splitOn_linesOf entries,
      map_parse?_render hfits⟩
    rw [hall, splitOn_append hcontent]

/-- A caller whose name has a line feed and a quotation mark has a record of its own. -/
theorem content_run?_and_read_back_of_line_feed :
    let first : Entry := .toolCall "a\n\"b\\" "s" "t" ⟨.success, 7, some 200⟩ 1000
    let second : Entry := .toolCall "c" "s" "t" ⟨.circuitOpen, 0, none⟩ 1001
    ∃ actions file, taken actions = [first, second] ∧
      (ofContent []).run? actions = some file ∧
      ∃ pieces, file.content.splitOn 0x0A = pieces ++ [[]] ∧
        pieces.map Entry.parse? = [some first, some second] := by
  intro first second
  have hfits : ∀ e ∈ [first, second], e.Fits := by
    intro e he
    simp only [List.mem_cons, List.not_mem_nil, or_false] at he
    rcases he with rfl | rfl
    · exact ⟨by decide, by decide, by decide⟩
    · exact ⟨by decide, by decide, by decide⟩
  clear_value first second
  obtain ⟨⟨actions, file, htaken, hfail, hrun, hdone⟩, hlog⟩ :=
    content_run?_and_read_back [] [first, second] (Or.inl rfl) hfits
  obtain ⟨hcontent, -, -, hpieces⟩ := hlog actions file htaken hfail hrun hdone
  rw [List.nil_append] at hcontent
  exact ⟨actions, file, htaken, hrun, hcontent ▸ hpieces⟩

end LogFile

/-! ## The log of a session -/

/-- Appends the line of a record. -/
def append (e : Entry) : StateM Bytes (Option FileError) := do
  modify (· ++ Text.Utf8.encode e.line)
  return none

/-- The lines of records that are handed over one after the other are appended. -/
theorem forM_dispatch_append (report : String → StateM Bytes Unit) (entries : List Entry)
    (content : Bytes) :
    (entries.forM (dispatch (some append) report)).run content =
      ((), content ++ linesOf entries) := by
  induction entries generalizing content with
  | nil => simp [linesOf]; rfl
  | cons e entries ih =>
    have hfirst : (dispatch (some append) report e).run content =
        ((), content ++ Text.Utf8.encode e.line) := rfl
    change (dispatch (some append) report e >>= fun _ =>
      entries.forM (dispatch (some append) report)).run content = _
    rw [StateT.run_bind, hfirst]
    dsimp only [bind]
    rw [ih, linesOf, linesOf, List.flatMap_cons, List.append_assoc]

/-- A session that hands its records to a file appends the lines of its trail. -/
theorem runRecording_append (report : String → StateM Bytes Unit) (s : Gateway.Settings)
    (session : Session) (events : List Event) (content : Bytes) :
    (session.runRecording (some append) report s events).run content =
      (session.run s events, content ++ linesOf (session.trail s events)) := by
  rw [Session.runRecording_eq, StateT.run_bind, forM_dispatch_append]
  rfl

end ToolGateway.Audit
