import SchemaHistory.Failure
import SchemaHistory.Report.Basic

/-!
Writing reports.

A file is written under a name of its own beside its place and then moved there, so that its place never
holds a part of it. The name ends in a number that no other run uses at the time.
-/

namespace SchemaHistory

open FileSystem Action

/-- The files of the two reports. -/
structure ReportPaths where
  filtered : Path
  missing : Path
  deriving Repr, DecidableEq

namespace Report

/-- The path that a file is written under before it is moved to its place. -/
def temporary (path : Path) (run : Nat) : Path :=
  let name := (path.fileName?.map Bytes.shown).getD ""
  path.withFileName (.ofString (name ++ "." ++ toString run ++ ".tmp"))

/-- Moves a file to its place. One that cannot be moved is removed. -/
def settle (temporary path : Path) : Action Failure Unit := do
  try (change (rename · temporary path)).at path
  catch e =>
    try (change (removeFile · temporary)).at temporary catch _ => pure ()
    throw e

/-- Gives a file a text, all at once, or not at all if the system stops to write it. -/
def writeWholeUntil (stop : Option Stop) (run : Nat) (path : Path) (text : String) :
    Action Failure Unit := do
  if let some parent := path.parent? then (makeDirectories parent).at parent
  let temporary := temporary path run
  (fill stop temporary text).at temporary
  settle temporary path

/-- Gives a file a text, all at once. -/
def writeWhole : Nat → Path → String → Action Failure Unit := writeWholeUntil none

/-- Writes both reports into a directory. -/
def write (run : Nat) (directory : Path) (filtered missing : List Statement)
    (generatedAt : Timestamp) : Action Failure ReportPaths := do
  let paths : ReportPaths :=
    ⟨directory.join (.ofString filteredFile), directory.join (.ofString missingFile)⟩
  writeWhole run paths.filtered (filteredText filtered)
  writeWhole run paths.missing (missingText missing generatedAt)
  return paths

end Report

end SchemaHistory
