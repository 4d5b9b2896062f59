import SchemaHistory.Path

/-!
The configuration of a run.

It names the files and directories that a run looks at, and the two commands of the external tool. In an
argument of a command, the placeholder stands for the name of the migration to be made.
-/

namespace SchemaHistory

/-- The commands that reset the database and generate a migration, each a program and its arguments. -/
structure ToolCommands where
  reset : List String
  generate : List String
  deriving Repr, DecidableEq

/-- The configuration of a run. -/
structure Config where
  policyPath : String
  /-- The directory of the migrations, inside the schema directory. -/
  migrationsDirectory : String
  /-- The directory that the migrations are moved to, inside the schema directory. -/
  backupDirectory : String
  /-- The file with the SQL text of a migration, inside its folder. -/
  migrationFile : String
  lockFile : String
  migrationName : String
  tool : ToolCommands
  deriving Repr, DecidableEq

namespace ToolCommands

/-- The commands of a run that is not configured. -/
def standard : ToolCommands where
  reset := ["bun", "prisma", "migrate", "reset", "--force"]
  generate := ["bun", "prisma", "migrate", "dev", "--name", "\x7bname\x7d"]

/-- What stands for the name of the migration. -/
def placeholder : List Char := ['{', 'n', 'a', 'm', 'e', '}']

/-- An argument with the name in place of every placeholder. -/
def fill (name arg : List Char) : List Char :=
  match _found : cutAt placeholder arg with
  | none => arg
  | some (before, after) => before ++ name ++ fill name after
termination_by arg.length
decreasing_by
  have := length_of_cutAt _found
  simp only [placeholder, List.length_cons, List.length_nil] at this
  omega

/-- A command with the name filled in. -/
def fillAll (name : String) (command : List String) : List String :=
  command.map fun arg => String.ofList (fill name.toList arg.toList)

/-- The command that resets the database. -/
def resetFor (t : ToolCommands) (name : String) : List String := fillAll name t.reset

/-- The command that generates a migration. -/
def generateFor (t : ToolCommands) (name : String) : List String := fillAll name t.generate

end ToolCommands

namespace Config

/-- The configuration of a run that is not configured. -/
def standard : Config where
  policyPath := "filters.json"
  migrationsDirectory := "migrations"
  backupDirectory := "migrations-backup"
  migrationFile := "migration.sql"
  lockFile := "migration_lock.toml"
  migrationName := "consolidated"
  tool := .standard

/-- The path of the migrations. -/
def migrationsPath (c : Config) (schema : Path) : Path := schema.join (.ofString c.migrationsDirectory)

/-- The path of the backup. -/
def backupPath (c : Config) (schema : Path) : Path := schema.join (.ofString c.backupDirectory)

/-- The directory that the tool runs in: the one that holds the schema directory. -/
def projectRoot (schema : Path) : Path :=
  match schema.parent? with
  | some parent => if parent.isEmpty then .ofString "." else parent
  | none => .ofString "."

/-- The command that resets the database, for the configured name. -/
def resetCommand (c : Config) : List String := c.tool.resetFor c.migrationName

/-- The command that generates the migration, for the configured name. -/
def generateCommand (c : Config) : List String := c.tool.generateFor c.migrationName

end Config

end SchemaHistory
