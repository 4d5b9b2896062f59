import SchemaHistory.CommandLine.Run
import SchemaHistory.Shell.Run

/-!
The program.

The files below the working directory are read, the command runs on them, and what it changed is written
back. A link is read as a link to what it leads to in the end; where a link would have to be made, what it
leads to is written instead, if that is a file.
-/

namespace SchemaHistory.Program

/-- How deep directories are read. -/
def depthLimit : Nat := 64

/-- The location of a path from the root. -/
def locationOf (path : String) : Location :=
  (Path.ofString path).segments.filter fun segment => !Path.isTrivial segment

/-- The path of a location from the root. -/
def pathOf (l : Location) : String := (Path.ofSegments ([] :: l)).text

/-- The location of a directory and those above it, as directories. -/
def directoriesTo (l : Location) : List (Location × Entry) :=
  (List.range l.length).map fun n => (l.take (n + 1), .directory)

/-- Reads what an entry of a directory is, and what is below it. -/
def readEntry : (depth : Nat) → Location → IO.FS.DirEntry → IO (List (Location × Entry))
  | 0, _, _ => return []
  | depth + 1, above, e => do
    let here := above ++ [Bytes.ofString e.fileName]
    let path := e.path
    match (← path.symlinkMetadata).type with
    | .file => return [(here, .file (← IO.FS.readBinFile path).data.toList)]
    | .dir =>
      let below ← (← path.readDir).toList.mapM fun e => readEntry depth here e
      return (here, .directory) :: below.flatten
    | .symlink => return [(here, .link (.ofString (← IO.FS.realPath path).toString))]
    | .other => return []

/-- Reads the files below the working directory. -/
def readFiles : IO FileSystem := do
  let directory ← IO.currentDir
  let here := locationOf directory.toString
  let found ← (← directory.readDir).toList.mapM fun e => readEntry depthLimit here e
  return ⟨directoriesTo here ++ found.flatten, here⟩

/-- Removes what is no longer there or is no longer what it was, the deepest first. -/
def removeOld (old new : FileSystem) : IO Unit := do
  let gone := old.entries.filter fun (l, e) =>
    match e, new.entry? l with
    | .directory, some .directory => false
    | .file _, some (.file _) => false
    | _, now => now != some e
  for (l, e) in gone.mergeSort fun a b => decide (b.1.length ≤ a.1.length) do
    if e == .directory then IO.FS.removeDir (pathOf l) else IO.FS.removeFile (pathOf l)

/-- Makes what was not there before, the directories first. -/
def makeNew (old new : FileSystem) : IO Unit := do
  let fresh := new.entries.filter fun (l, e) => old.entry? l != some e
  for (l, e) in fresh.mergeSort fun a b => decide (a.1.length ≤ b.1.length) do
    match e with
    | .directory => IO.FS.createDirAll (pathOf l)
    | .file content => IO.FS.writeBinFile (pathOf l) ⟨content.toArray⟩
    | .link target =>
      match new.readBytes target with
      | .ok content => IO.FS.writeBinFile (pathOf l) ⟨content.toArray⟩
      | .error _ => pure ()

/-- The time, as the system notes it on a new file. -/
def now : IO Timestamp := do
  let (_, path) ← IO.FS.createTempFile
  let time := (← path.metadata).modified
  IO.FS.removeFile path
  return ⟨time.sec, time.nsec.toNat⟩

end SchemaHistory.Program

open SchemaHistory in
/-- Runs the command that the arguments ask for. -/
def main (arguments : List String) : IO UInt32 := do
  let environment ← IO.getEnv "MIGSQUASH_POLICY"
  let files ← Program.readFiles
  let circumstances : Circumstances := ⟨← Program.now, ← IO.rand 1 999999⟩
  let result := CommandLine.run circumstances Shell.programs environment arguments files
  Program.removeOld files result.files
  Program.makeNew files result.files
  (← IO.getStdout).write ⟨result.output.toArray⟩
  (← IO.getStderr).write ⟨result.errors.toArray⟩
  if result.code == 2 then IO.eprint (CommandLine.helpText environment none)
  return UInt32.ofNat result.code
