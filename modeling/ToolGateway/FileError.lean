/-!
# File errors

Why a file could not be opened, read or written, or an address not be listened at, with the texts by
which that is reported.
-/

namespace ToolGateway

/-- Why a file operation failed. -/
inductive FileError where
  | notFound
  | permissionDenied
  | notDirectory
  | isDirectory
  | nameTooLong
  | noSpace
  | addressInUse
  | addressNotAvailable
  /-- The operation was refused before it reached the system. -/
  | refused (reason : String)
  deriving DecidableEq, Repr

/-- What the system says and its number for it. -/
def FileError.code? : FileError → Option (String × Nat)
  | .notFound => some ("No such file or directory", 2)
  | .permissionDenied => some ("Permission denied", 13)
  | .notDirectory => some ("Not a directory", 20)
  | .isDirectory => some ("Is a directory", 21)
  | .nameTooLong => some ("File name too long", 36)
  | .noSpace => some ("No space left on device", 28)
  | .addressInUse => some ("Address already in use", 98)
  | .addressNotAvailable => some ("Cannot assign requested address", 99)
  | .refused _ => none

/-- All errors that have a number. -/
def FileError.numbered : List FileError :=
  [.notFound, .permissionDenied, .notDirectory, .isDirectory, .nameTooLong, .noSpace,
    .addressInUse, .addressNotAvailable]

/-- The error of a number; `reason` is its text if the number is not known. -/
def FileError.ofNumber (number : Nat) (reason : String) : FileError :=
  (numbered.find? fun e => e.code?.any fun code => code.2 == number).getD (.refused reason)

/-- The text of an error. -/
def FileError.message (e : FileError) : String :=
  match e, e.code? with
  | .refused reason, _ => reason
  | _, some (words, number) => words ++ " (os error " ++ Nat.repr number ++ ")"
  | _, none => ""

end ToolGateway
