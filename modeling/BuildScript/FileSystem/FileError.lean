/-!
# Errors of a file system

Why an operation on files fails, with the number and the wording that the system gives it.
-/

namespace BuildScript

/-- Why an operation on files fails. -/
inductive FileError where
  | noEntry
  | accessDenied
  | alreadyThere
  | notDirectory
  | isDirectory
  /-- The place may not be used in this way. -/
  | invalid
  | nameTooLong
  | notEmpty
  /-- A name holds the character that no name may hold. -/
  | nulByte
  deriving DecidableEq, Repr

namespace FileError

/-- What went wrong, without the number. -/
def text : FileError → String
  | noEntry => "No such file or directory"
  | accessDenied => "Permission denied"
  | alreadyThere => "File exists"
  | notDirectory => "Not a directory"
  | isDirectory => "Is a directory"
  | invalid => "Invalid argument"
  | nameTooLong => "File name too long"
  | notEmpty => "Directory not empty"
  | nulByte => "file name contained an unexpected NUL byte"

/-- The number of an error that comes from the system. -/
def number? : FileError → Option Nat
  | noEntry => some 2
  | accessDenied => some 13
  | alreadyThere => some 17
  | notDirectory => some 20
  | isDirectory => some 21
  | invalid => some 22
  | nameTooLong => some 36
  | notEmpty => some 39
  | nulByte => none

/-- The wording of an error. -/
def message (e : FileError) : String :=
  match e.number? with
  | some number => s!"{e.text} (os error {number})"
  | none => e.text

end FileError

end BuildScript
