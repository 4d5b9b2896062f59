import SchemaHistory.Command.Basic
import SchemaHistory.Migration.Folder
import SchemaHistory.Report.Basic

/-!
The command that shows what would be filtered.
-/

namespace SchemaHistory.Command

open Session

/-- How the filtered statements are shown. -/
inductive Format where
  | table
  | json
  deriving Repr, DecidableEq

/-- The row of a statement, if it is filtered. -/
def filteredRow (s : Statement) : Option (List String) :=
  s.filter.map fun reason => [s.source, reason.kind, Table.oneLine statementWidth s.text]

/-- The lines about a filtered history of so many folders. -/
def analysisLines (folders : Nat) (migrations : Path) (h : History) : List String :=
  let summary := Summary.ofFiltered h
  ["Analyzed " ++ toString folders ++ " migrations in " ++ migrations.text, ""] ++
    summary.lines false ++
    if summary.filtered > 0 then
      "" :: Table.lines ["SOURCE", "KIND", "STATEMENT"] (h.statements.filterMap filteredRow)
    else []

/-- Shows what would be filtered in the history of a schema. -/
def analyze (settings : Settings) (schema : Path) (format : Format) : Session.Action Unit := do
  let config ← settings.loadConfig
  let policy ← settings.loadPolicy config
  let migrations := config.migrationsPath schema
  let folders ← ask .listingMigrations (Folder.discover migrations)
  let sources ← ask .readingMigrations (Folder.sources folders config.migrationFile)
  let history := History.ofFiltered sources policy
  match format with
  | .json => printLine (Report.filteredText history.filtered)
  | .table => printLines (analysisLines folders.length migrations history)

end SchemaHistory.Command
