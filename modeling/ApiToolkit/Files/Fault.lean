/-!
# Faults of file operations

## What is inside

- `Files.Fault`: why an operation on files or programs fails, with `Files.Fault.message`.
-/

namespace ApiToolkit.Files

/-- Why an operation on files or programs fails. -/
inductive Fault where
  /-- There is nothing under the path. -/
  | notFound
  /-- The operation is not allowed. -/
  | permissionDenied
  /-- There is something under the path already. -/
  | alreadyExists
  /-- A part of the path before the last one is no directory. -/
  | notDirectory
  /-- The path leads to a directory. -/
  | isDirectory
  /-- The path or one of its parts is too long. -/
  | nameTooLong
  /-- The content is no text. -/
  | invalidText
  /-- The path holds the character with the number zero. -/
  | nulInName
  /-- No directory of a path could be made. -/
  | wholeTree
  /-- Any other fault. -/
  | other (message : String)
deriving DecidableEq, Repr

/-- The text of a fault. -/
def Fault.message : Fault → String
  | .notFound => "No such file or directory (os error 2)"
  | .permissionDenied => "Permission denied (os error 13)"
  | .alreadyExists => "File exists (os error 17)"
  | .notDirectory => "Not a directory (os error 20)"
  | .isDirectory => "Is a directory (os error 21)"
  | .nameTooLong => "File name too long (os error 36)"
  | .invalidText => "stream did not contain valid UTF-8"
  | .nulInName => "file name contained an unexpected NUL byte"
  | .wholeTree => "failed to create whole tree"
  | .other message => message

end ApiToolkit.Files
