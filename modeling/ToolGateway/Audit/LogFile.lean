import ToolGateway.Audit

/-!
# The log file

Calls that end at the same time append to one file. Each takes the lock of the file with its line
ready, writes the line, as many bytes at a time as the system takes, and gives the lock back when
all of it is written or writing fails. `LogFile.step?` is one step of one of them.
-/

namespace ToolGateway.Audit

/-- A log file: its content, and what the holder of its lock has still to write, if somebody holds
it. -/
structure LogFile where
  content : Bytes
  holder : Option Bytes
  deriving DecidableEq, Repr

namespace LogFile

/-- What one of the calls that share the file does. -/
inductive Action where
  /-- The lock is taken for a record. -/
  | take (entry : Entry)
  /-- So many bytes are written. -/
  | write (count : Nat)
  /-- The lock is given back. -/
  | release
  /-- Writing fails, and the lock is given back. -/
  | fail
  deriving DecidableEq, Repr

/-- A file that nobody holds. -/
def ofContent (content : Bytes) : LogFile := ⟨content, none⟩

/-- Takes one step. The lock is taken when it is free and given back when the line is written, and
only its holder writes. -/
def step? : LogFile → Action → Option LogFile
  | ⟨content, none⟩, .take entry => some ⟨content, some (Text.Utf8.encode entry.line)⟩
  | ⟨content, some rest⟩, .write count => some ⟨content ++ rest.take count, some (rest.drop count)⟩
  | ⟨content, some []⟩, .release => some ⟨content, none⟩
  | ⟨content, some _⟩, .fail => some ⟨content, none⟩
  | _, _ => none

variable {content rest : Bytes}

@[simp] theorem step?_take (entry : Entry) :
    step? ⟨content, none⟩ (.take entry) = some ⟨content, some (Text.Utf8.encode entry.line)⟩ := rfl

@[simp] theorem step?_write (count : Nat) :
    step? ⟨content, some rest⟩ (.write count) =
      some ⟨content ++ rest.take count, some (rest.drop count)⟩ := by
  cases rest <;> rfl

@[simp] theorem step?_release :
    step? ⟨content, some []⟩ .release = some ⟨content, none⟩ := rfl

@[simp] theorem step?_fail : step? ⟨content, some rest⟩ .fail = some ⟨content, none⟩ := by
  cases rest <;> rfl

/-- Takes steps one after the other. -/
def run? (file : LogFile) : List Action → Option LogFile
  | [] => some file
  | action :: actions => (file.step? action).bind (·.run? actions)

end LogFile

end ToolGateway.Audit
