import SchemaHistory.Failure
import SchemaHistory.History.Basic

/-!
Folders of migrations.

Every directory in the directory of the migrations is the folder of one migration, also one that a link
leads to. The name of a folder gives its place in the history: folders are in the order of the bytes of
their names as they are shown. The SQL text of a migration is in one file of its folder.
-/

namespace SchemaHistory

/-- The folder of a migration. -/
structure Folder where
  /-- The name as it is shown. -/
  name : String
  path : Path
  deriving Repr, DecidableEq

/-- A migration that the tool has made, with its SQL text. -/
structure NewMigration where
  folder : Folder
  sql : String
  deriving Repr, DecidableEq

namespace Folder

/-- The folder with a name in a directory. -/
def inDirectory (directory : Path) (name : Bytes) : Folder := ⟨name.shown, directory.join ⟨name⟩⟩

/-- Whether the name of one folder does not come after that of another. -/
def notAfter (a b : Folder) : Bool := decide (Bytes.ofString a.name ≤ Bytes.ofString b.name)

/-- The folders in a directory, in order. -/
def discover (directory : Path) (fs : FileSystem) : Except Failure (List Folder) :=
  if fs.isDirectory directory then do
    let names ← (fs.listDirectory directory).mapError (Failure.access directory)
    let found := (names.map (inDirectory directory)).filter fun f => fs.isDirectory f.path
    return found.mergeSort notAfter
  else throw (.migrationsNotFound directory)

/-- The path of a file in a folder. -/
def file (f : Folder) (name : String) : Path := f.path.join (.ofString name)

/-- The SQL text of a migration, which is empty if there is no file. -/
def source (f : Folder) (fileName : String) (fs : FileSystem) : Except Failure Source := do
  let path := f.file fileName
  if fs.isFile path then
    return ⟨f.name, ← (fs.readText path).mapError (Failure.access path)⟩
  else return ⟨f.name, ""⟩

/-- The SQL texts of a list of migrations. -/
def sources (folders : List Folder) (fileName : String) (fs : FileSystem) :
    Except Failure (List Source) :=
  folders.mapM fun f => f.source fileName fs

/-- The migration that the tool has made: the first one in the directory. -/
def findNew (directory : Path) (fileName : String) (fs : FileSystem) :
    Except Failure NewMigration := do
  match ← discover directory fs with
  | [] => throw (.noNewMigration directory)
  | f :: _ =>
    let path := f.file fileName
    if fs.isFile path then
      return ⟨f, ← (fs.readText path).mapError (Failure.access path)⟩
    else throw (.newMigrationWithoutFile f.name fileName)

end Folder

end SchemaHistory
