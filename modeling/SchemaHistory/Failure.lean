import SchemaHistory.Config.Reader
import SchemaHistory.FileSystem.Change
import SchemaHistory.Policy.Basic

/-!
How a run can fail, apart from the external tool.

Every failure has a number. What another format says about a text that it does not accept is left out of
the message.
-/

namespace SchemaHistory

/-- Why a run cannot go on. -/
inductive Failure where
  | configNotFound (path : Path)
  | configInvalid (path : Path) (error : ConfigError)
  | policyNotFound (path : Path)
  | policyInvalid (path : Path) (error : PolicyError)
  | migrationsNotFound (path : Path)
  | noNewMigration (path : Path)
  | newMigrationWithoutFile (folder file : String)
  | backupExists (path : Path)
  | access (path : Path) (error : SystemError)
  deriving Repr, DecidableEq

namespace Failure

/-- A failure in words. -/
def message : Failure → String
  | configNotFound path => "[E001] Config file not found: " ++ path.text
  | configInvalid path error =>
    "[E002] Failed to parse config " ++ path.text ++ ": " ++ error.message
  | policyNotFound path => "[E003] Filter policy not found: " ++ path.text
  | policyInvalid path .malformed => "[E004] Failed to parse filter policy " ++ path.text ++ ": "
  | policyInvalid _ (.invalidPattern rule pattern) =>
    "[E005] Invalid pattern '" ++ pattern ++ "' in filter rule '" ++ rule ++ "': "
  | migrationsNotFound path => "[E006] Migrations directory not found: " ++ path.text
  | noNewMigration path => "[E007] No migration folder found in " ++ path.text
  | newMigrationWithoutFile folder file =>
    "[E008] New migration '" ++ folder ++ "' has no " ++ file
  | backupExists path => "[E009] Backup destination already exists: " ++ path.text
  | access path error => "[E010] Failed to access '" ++ path.text ++ "': " ++ error.message

/-- What the system said, where it refused an access. -/
def cause? : Failure → Option SystemError
  | access _ error => some error
  | _ => none

end Failure

/-- Steps whose refusal counts as a failed access to a path. -/
def FileSystem.Action.at {α : Type} (path : Path) (x : Action SystemError α) : Action Failure α :=
  x.adaptExcept (Failure.access path)

end SchemaHistory
