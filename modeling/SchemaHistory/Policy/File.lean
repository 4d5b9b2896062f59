import SchemaHistory.Failure

/-!
Policies in files.
-/

namespace SchemaHistory.Policy

/-- Reads a file that must be there. -/
def load (path : Path) (fs : FileSystem) : Except Failure Policy :=
  if fs.pathExists path then do
    let text ← (fs.readText path).mapError (Failure.access path)
    (ofDocument text).mapError (Failure.policyInvalid path)
  else throw (.policyNotFound path)

end SchemaHistory.Policy
