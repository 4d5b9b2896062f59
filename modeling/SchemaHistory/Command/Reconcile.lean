import SchemaHistory.Command.Basic
import SchemaHistory.Migration.Folder
import SchemaHistory.Reconciliation
import SchemaHistory.Report.Writer

/-!
The command that compares the backed-up history with the current migration.
-/

namespace SchemaHistory

open Session

/-- The outcome of a filtered history and a new migration. -/
def History.outcomeAgainst (h : History) (sql : String) : Outcome :=
  let r := h.reconcile sql
  r.history.outcome r.removed (Summary.ofFiltered h)

/-- What is given to a run from outside: the time, and a number that no other run uses at the time. -/
structure Circumstances where
  now : Timestamp
  run : Nat
  deriving Repr, DecidableEq

namespace Command

/-- A comparison of the backup with the current migration. -/
structure Comparison where
  folders : Nat
  migration : Folder
  outcome : Outcome

/-- Compares the backup of a schema with its current migration. -/
def compare (config : Config) (policy : Policy) (schema : Path) : Session.Action Comparison := do
  let folders ← ask .listingBackup (Folder.discover (config.backupPath schema))
  let sources ← ask .readingMigrations (Folder.sources folders config.migrationFile)
  let migration ← ask .readingCurrent
    (Folder.findNew (config.migrationsPath schema) config.migrationFile)
  return ⟨folders.length, migration.folder,
    (History.ofFiltered sources policy).outcomeAgainst migration.sql⟩

/-- The row of a missing statement, which is counted from one. -/
def missingRow (index : Nat) (s : Statement) : List String :=
  [toString (index + 1), s.source, Table.oneLine statementWidth s.text]

/-- The lines that list missing statements. -/
def missingLines (missing : List Statement) : List String :=
  Table.lines ["#", "SOURCE", "STATEMENT"] (missing.zipIdx.map fun (s, index) => missingRow index s)

/-- Compares the backup of a schema with its current migration, writes the reports if asked to, and tells
whether nothing is missing. -/
def reconcile (at_ : Circumstances) (settings : Settings) (schema : Path) (write : Bool) :
    Session.Action Bool := do
  let config ← settings.loadConfig
  let policy ← settings.loadPolicy config
  let c ← compare config policy schema
  printLine ("Reconciled " ++ toString c.folders ++ " backed-up migrations against " ++
    c.migration.name)
  printLine ""
  printLines (c.outcome.summary.lines true)
  if write then
    let paths ← act .writingReports
      (Report.write at_.run c.migration.path c.outcome.filtered c.outcome.missing at_.now)
    printLines ["", "Wrote " ++ paths.filtered.text, "Wrote " ++ paths.missing.text]
  if c.outcome.missing.isEmpty then return true
  else
    printLines ("" :: missingLines c.outcome.missing)
    return false

end Command

end SchemaHistory
