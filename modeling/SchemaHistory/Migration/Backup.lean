import SchemaHistory.Migration.Folder

/-!
Moving the migrations to the backup.

First it is checked that none of the folders would take the place of another entry, then the folders are
moved one by one, and last the lock file is copied if there is one.
-/

namespace SchemaHistory

open FileSystem Action

/-- What was moved to a backup. -/
structure Backup where
  moved : List String
  lockFileCopied : Bool
  deriving Repr, DecidableEq

namespace Backup

/-- Where a folder is moved to. -/
def destination (directory : Path) (f : Folder) : Path := directory.join (.ofString f.name)

/-- Refuses to move a folder to a path that exists. -/
def check (directory : Path) (f : Folder) : Action Failure Unit := do
  let path := destination directory f
  if (← get).pathExists path then throw (.backupExists path)

/-- Moves a folder. -/
def move (directory : Path) (f : Folder) : Action Failure Unit :=
  (change (rename · f.path (destination directory f))).at f.path

/-- Moves a list of folders from the directory of the migrations to that of the backup. -/
def make (folders : List Folder) (migrations directory : Path) (lockFile : String) :
    Action Failure Backup := do
  (makeDirectories directory).at directory
  folders.forM (check directory)
  folders.forM (move directory)
  let lock := migrations.join (.ofString lockFile)
  let hasLock := (← get).isFile lock
  if hasLock then (copy lock (directory.join (.ofString lockFile))).at lock
  return ⟨folders.map (·.name), hasLock⟩

end Backup

end SchemaHistory
