import SchemaHistory.Failure

/-!
Configurations in files.
-/

namespace SchemaHistory.Config

/-- The name of the file with the configuration of a directory. -/
def fileName : String := "migsquash.yml"

/-- Reads a file that must be there. -/
def load (path : Path) (fs : FileSystem) : Except Failure Config :=
  if fs.pathExists path then do
    let text ← (fs.readText path).mapError (Failure.access path)
    (parse text).mapError (Failure.configInvalid path)
  else throw (.configNotFound path)

/-- Reads the file in a directory. Without the file the configuration is the standard one. -/
def loadFrom (directory : Path) (fs : FileSystem) : Except Failure Config :=
  let path := directory.join (.ofString fileName)
  if fs.pathExists path then load path fs else return standard

end SchemaHistory.Config
