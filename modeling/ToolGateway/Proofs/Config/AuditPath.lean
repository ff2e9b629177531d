import ToolGateway.Audit.Sink
import ToolGateway.Proofs.Config.Acceptance
import ToolGateway.Proofs.Text.Trimming

/-!
# The path of the audit log

The path of the audit log is checked without the blanks around it and opened with them. So what is
opened is what was checked only for a path that neither begins nor ends with a blank, and blanks
around a path make a file name of any length that is opened without having been checked.
-/

namespace ToolGateway.Config

open Text (AllBlank)

/-- Notes which files are opened; `outcome` tells how opening them turns out. -/
def noting (outcome : String → Option FileError) (path : String) :
    StateM (List String) (Option FileError) := do
  modify (· ++ [path])
  return outcome path

/-- The files that are opened for an audit log. -/
def AuditLog.opened (a : AuditLog) (outcome : String → Option FileError) : List String :=
  ((Audit.Sink.start a.sink a.path (noting outcome)).run []).2

/-- Just the path of a log that goes to a file is opened, as it stands. -/
theorem AuditLog.opened_eq (a : AuditLog) (outcome : String → Option FileError) :
    a.opened outcome = if a.sink = .file then a.path.toList else [] := by
  obtain ⟨sink, path⟩ := a
  cases sink with
  | standardError => cases path <;> rfl
  | none => cases path <;> rfl
  | file =>
    cases path with
    | none => rfl
    | some path =>
      -- The sink is settled by what opening gives, but not what is opened.
      simp only [opened, Audit.Sink.start, Audit.Sink.ofKind, noting]
      cases outcome path <;> rfl

/-- Only what trimming leaves of a path is checked. -/
theorem pathFits_congr {path path' : String} (h : Text.trim path' = Text.trim path) :
    PathFits path' ↔ PathFits path := by
  rw [← pathFaults_eq_nil_iff, ← pathFaults_eq_nil_iff, pathFaults, h, pathFaults]

/-- Another path that fits may take the place of the path. -/
theorem IsValid.withPath {c : Config} (hvalid : c.IsValid) {path : String} (hfits : PathFits path) :
    IsValid { c with audit := ⟨.file, some path⟩ } := by
  obtain ⟨⟨bounds, guarded, entries, keys, -⟩, ⟨hne, hchars⟩, -⟩ := isValid_iff_isOrderly.mp hvalid
  refine isValid_iff_isOrderly.mpr ⟨⟨?_, guarded, ?_, ?_, by simp⟩, ⟨hne, hchars⟩, ?_⟩
  · exact { bounds with }
  · exact { entries with }
  · exact { keys with }
  · rintro _ ⟨⟩
    exact hfits

/-- With a valid configuration whose audit records go to a file, just the path that it gives is
opened. What was checked, and fits, is what trimming leaves of it, and that is the same path if and
only if there is no blank at its ends. With any blanks around it as well, the configuration is
valid, and the blanks are opened too. -/
theorem IsValid.opens_checked_iff {c : Config} (hvalid : c.IsValid)
    (hfile : c.audit.sink = .file) (outcome : String → Option FileError) :
    ∃ path, c.audit.path = some path ∧ c.audit.opened outcome = [path] ∧
      PathFits (Text.trim path) ∧
      (Text.trim path = path ↔ (∀ ch ∈ path.toList.head?, Text.isBlank ch = false) ∧
        ∀ ch ∈ path.toList.getLast?, Text.isBlank ch = false) ∧
      ∀ left right : String, AllBlank left.toList → AllBlank right.toList →
        let c' := { c with audit := ⟨.file, some (left ++ path ++ right)⟩ }
        c'.IsValid ∧ c'.audit.opened outcome = [left ++ path ++ right] := by
  obtain ⟨horderly, -, hfits⟩ := isValid_iff_isOrderly.mp hvalid
  obtain ⟨path, hpath⟩ := Option.isSome_iff_exists.mp (horderly.auditPath.mpr hfile)
  have hpathFits : PathFits path := hfits path hpath
  have hchecked : PathFits (Text.trim path) := (pathFits_congr (Text.trim_trim path)).mpr hpathFits
  refine ⟨path, hpath, ?_, hchecked, Text.trim_eq_self_iff, ?_⟩
  · rw [AuditLog.opened_eq, if_pos hfile, hpath, Option.toList_some]
  · intro left right hleft hright c'
    have htrim : Text.trim (left ++ path ++ right) = Text.trim path :=
      Text.trim_append_of_allBlank hleft hright path
    exact ⟨hvalid.withPath ((pathFits_congr htrim).mpr hpathFits), AuditLog.opened_eq _ _⟩

/-- With 250 blanks behind it, a short file name is as valid as without. But what is opened then has
a part that is longer than a part may be. -/
theorem IsValid.opens_checked_iff_of_blank_end :
    let path := "audit.log"
    let blanks := String.ofList (List.replicate 250 ' ')
    let c := { standard with audit := ⟨.file, some path⟩ }
    let c' := { standard with audit := ⟨.file, some (path ++ blanks)⟩ }
    c.IsValid ∧ c.audit.opened (fun _ => none) = [path] ∧
      c'.IsValid ∧ c'.audit.opened (fun _ => none) = [path ++ blanks] ∧
      ∃ part ∈ (path ++ blanks).toList.splitOn '/',
        maxPartLength < (Text.Utf8.encodeChars part).length := by
  intro path blanks c c'
  have hvalid : c.IsValid := by decide +kernel
  have hblanks : blanks.toList = List.replicate 250 ' ' := String.toList_ofList
  have hchars : (path ++ blanks).toList = path.toList ++ List.replicate 250 ' ' := by
    rw [String.toList_append, hblanks]
  have hblank : AllBlank blanks.toList := by
    rw [hblanks]
    decide +kernel
  obtain ⟨_, ⟨⟩, hopened, -, -, hpadded⟩ := hvalid.opens_checked_iff rfl fun _ => none
  obtain ⟨hvalid', hopened'⟩ := hpadded "" blanks (List.forall_mem_nil _) hblank
  rw [String.empty_append] at hvalid' hopened'
  refine ⟨hvalid, hopened, hvalid', hopened', path.toList ++ List.replicate 250 ' ', ?_, ?_⟩
  · rw [hchars]
    decide +kernel
  · decide +kernel

end ToolGateway.Config
