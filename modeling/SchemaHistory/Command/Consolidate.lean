import SchemaHistory.Command.Reconcile
import SchemaHistory.Migration.Backup

/-!
The command that replaces a history by one migration.

The history is read and filtered before anything changes. Then it is moved to the backup, the tool resets
the database and generates the one migration, and the reports tell what of the history is not in it. The
first of these that fails ends the run.
-/

namespace SchemaHistory.Command

open Session

/-- What a consolidation did. -/
structure Consolidation where
  backup : Backup
  migration : Folder
  outcome : Outcome
  reports : ReportPaths

/-- Replaces the history of a schema by one migration. -/
def consolidateWith (at_ : Circumstances) (config : Config) (policy : Policy) (tool : Tool)
    (schema : Path) : Session.Action Consolidation := do
  let migrations := config.migrationsPath schema
  let folders ← ask .listingMigrations (Folder.discover migrations)
  if folders.isEmpty then throw (.noMigrations migrations)
  let sources ← ask .readingMigrations (Folder.sources folders config.migrationFile)
  let history := History.ofFiltered sources policy
  let backup ← act .backingUp
    (Backup.make folders migrations (config.backupPath schema) config.lockFile)
  call tool .reset
  call tool .generate
  let migration ← ask .readingRegenerated (Folder.findNew migrations config.migrationFile)
  let outcome := history.outcomeAgainst migration.sql
  let reports ← act .writingReports
    (Report.write at_.run migration.folder.path outcome.filtered outcome.missing at_.now)
  return ⟨backup, migration.folder, outcome, reports⟩

/-- The lines about a consolidation. -/
def consolidationLines (c : Consolidation) (backup : Path) : List String :=
  ["", "Backed up " ++ toString c.backup.moved.length ++ " migrations to " ++ backup.text,
    "New migration: " ++ c.migration.name] ++
  c.outcome.summary.lines true ++
  ["", "Reports:", "  " ++ c.reports.filtered.text, "  " ++ c.reports.missing.text] ++
  if c.outcome.missing.isEmpty then []
  else ["", toString c.outcome.missing.length ++ " statements are not in the new migration. Review " ++
    c.reports.missing.text ++ " before deploying."]

/-- The tool that is configured for a schema. -/
def configuredTool (programs : Programs) (config : Config) (schema : Path) : Tool :=
  .ofCommands programs (Config.projectRoot schema) config.resetCommand config.generateCommand

/-- Replaces the history of a schema by one migration, with the tool that is configured. -/
def consolidate (at_ : Circumstances) (programs : Programs) (settings : Settings) (schema : Path) :
    Session.Action Unit := do
  let config ← settings.loadConfig
  let policy ← settings.loadPolicy config
  let c ← consolidateWith at_ config policy (configuredTool programs config schema) schema
  printLines (consolidationLines c (config.backupPath schema))

end SchemaHistory.Command
