import SchemaHistory.Config.Basic
import SchemaHistory.Yaml.Record

/-!
Reading a configuration.

A configuration is a YAML record. What is not written has its standard value. The name of the migration
file must not be blank, the directories of the migrations and of the backup must be written differently,
and no command may be empty; of several faults the first in this order counts.
-/

namespace SchemaHistory

/-- Why a text is no configuration. -/
inductive ConfigError where
  | malformed
  | blankMigrationFile
  | sameDirectories
  | emptyCommand
  deriving Repr, DecidableEq

/-- What is said about an error. Nothing is said about a text that is not a record of the right form. -/
def ConfigError.message : ConfigError → String
  | malformed => ""
  | blankMigrationFile => "migration_file cannot be empty"
  | sameDirectories => "backup_dir must differ from migrations_dir"
  | emptyCommand => "tool commands cannot be empty"

namespace Config

/-- The text of a field that may be left out. -/
def textOr? (standard : String) : Option Yaml.Node → Option String
  | none => some standard
  | some n => n.text?

/-- The command of a field that may be left out. -/
def commandOr? (standard : List String) : Option Yaml.Node → Option (List String)
  | none => some standard
  | some n => do (← n.items?).mapM Yaml.Node.text?

/-- The tool commands of a field that may be left out. -/
def toolOr? : Option Yaml.Node → Option ToolCommands
  | none => some .standard
  | some n => do
    let [reset, generate] ← n.fields? ["reset", "generate"] | none
    return ⟨← commandOr? ToolCommands.standard.reset reset,
      ← commandOr? ToolCommands.standard.generate generate⟩

/-- The configuration that a node describes. -/
def ofNode? (n : Yaml.Node) : Option Config := do
  let [policy, migrations, backup, file, lock, name, tool] ← n.fields?
    ["policy_path", "migrations_dir", "backup_dir", "migration_file", "lock_file", "migration_name",
      "tool"] | none
  return {
    policyPath := ← textOr? standard.policyPath policy
    migrationsDirectory := ← textOr? standard.migrationsDirectory migrations
    backupDirectory := ← textOr? standard.backupDirectory backup
    migrationFile := ← textOr? standard.migrationFile file
    lockFile := ← textOr? standard.lockFile lock
    migrationName := ← textOr? standard.migrationName name
    tool := ← toolOr? tool }

/-- The first fault of a configuration. -/
def fault? (c : Config) : Option ConfigError :=
  if (trim c.migrationFile.toList).isEmpty then some .blankMigrationFile
  else if c.migrationsDirectory == c.backupDirectory then some .sameDirectories
  else if c.tool.reset.isEmpty || c.tool.generate.isEmpty then some .emptyCommand
  else none

/-- Reads a configuration. -/
def parse (text : String) : Except ConfigError Config :=
  match (Yaml.parse? text).bind ofNode? with
  | none => .error .malformed
  | some c =>
    match c.fault? with
    | some e => .error e
    | none => .ok c

end Config

end SchemaHistory
