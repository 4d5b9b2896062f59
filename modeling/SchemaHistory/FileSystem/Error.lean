/-!
Why the system refuses an access to a file.
-/

namespace SchemaHistory

/-- What the system answers when it refuses an access. -/
inductive SystemError where
  | notFound
  | permissionDenied
  | busy
  | alreadyExists
  | notDirectory
  | isDirectory
  | invalidArgument
  | noSpace
  | nameTooLong
  | directoryNotEmpty
  | tooManyLinks
  /-- A file is read as text and is not in UTF-8. -/
  | notText
  /-- A path contains the character with code zero. -/
  | nulInPath
  /-- An argument of a program contains the character with code zero. -/
  | nulInArgument
  deriving Repr, DecidableEq

namespace SystemError

/-- What is wrong, in words. -/
def reason : SystemError → String
  | notFound => "No such file or directory"
  | permissionDenied => "Permission denied"
  | busy => "Device or resource busy"
  | alreadyExists => "File exists"
  | notDirectory => "Not a directory"
  | isDirectory => "Is a directory"
  | invalidArgument => "Invalid argument"
  | noSpace => "No space left on device"
  | nameTooLong => "File name too long"
  | directoryNotEmpty => "Directory not empty"
  | tooManyLinks => "Too many levels of symbolic links"
  | notText => "stream did not contain valid UTF-8"
  | nulInPath => "file name contained an unexpected NUL byte"
  | nulInArgument => "nul byte found in provided data"

/-- The number of an error, if the system itself reports it. -/
def number? : SystemError → Option Nat
  | notFound => some 2
  | permissionDenied => some 13
  | busy => some 16
  | alreadyExists => some 17
  | notDirectory => some 20
  | isDirectory => some 21
  | invalidArgument => some 22
  | noSpace => some 28
  | nameTooLong => some 36
  | directoryNotEmpty => some 39
  | tooManyLinks => some 40
  | notText => none
  | nulInPath => none
  | nulInArgument => none

/-- The text of an error. -/
def message (e : SystemError) : String :=
  match e.number? with
  | some n => e.reason ++ " (os error " ++ toString n ++ ")"
  | none => e.reason

end SystemError

end SchemaHistory
