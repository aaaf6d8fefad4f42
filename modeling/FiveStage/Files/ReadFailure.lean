/-!
# Read failures

Why the contents of a file are not available. A host has a number for each of its own reasons; the
other two are found before the host is asked and after it has answered.
-/

namespace FiveStage

/-- Why the contents of a file are not available. -/
inductive ReadFailure where
  | notFound
  | permissionDenied
  /-- A name that is followed by another one is not that of a directory. -/
  | notDirectory
  | isDirectory
  | nameTooLong
  /-- The path holds the character that ends a path for the host. -/
  | nulInPath
  /-- The contents are not text. -/
  | notText
  | other (description : String)
  deriving DecidableEq, Repr

namespace ReadFailure

/-- The failures that a host reports, with their numbers. -/
def numbered : List (Nat × ReadFailure) :=
  [(2, notFound), (13, permissionDenied), (20, notDirectory), (21, isDirectory), (36, nameTooLong)]

/-- The failure that a host means by a number. -/
def ofNumber? (number : Nat) : Option ReadFailure :=
  (numbered.find? (·.1 == number)).map (·.2)

def message : ReadFailure → String
  | notFound => "No such file or directory (os error 2)"
  | permissionDenied => "Permission denied (os error 13)"
  | notDirectory => "Not a directory (os error 20)"
  | isDirectory => "Is a directory (os error 21)"
  | nameTooLong => "File name too long (os error 36)"
  | nulInPath => "file name contained an unexpected NUL byte"
  | notText => "stream did not contain valid UTF-8"
  | other description => description

end ReadFailure

end FiveStage
