import SchemaHistory.CommandLine.Request

/-!
Help texts.
-/

namespace SchemaHistory.CommandLine

/-- The name of the program. -/
def programTitle : String := "migsquash"

/-- The version of the program. -/
def versionText : String := programTitle ++ " 0.1.0\n"

/-- What a command is for. -/
def CommandName.summary : CommandName → String
  | consolidate => "Back up the history, regenerate one migration, and report what was lost"
  | analyze => "Show what the policy and redundancy passes would filter"
  | reconcile => "Compare the backed-up history against the current migration"
  | rules => "List the filter policy rules"

/-- What can be written behind a command. -/
def usageOf : Level → String
  | none => "[OPTIONS] <COMMAND>"
  | some .rules => "rules [OPTIONS]"
  | some command => command.text ++ " [OPTIONS] [PRISMA_DIR]"

/-- What stands in the directory that a command works on. -/
def schemaNote : CommandName → String
  | .reconcile => "Prisma directory holding the migrations and backup folders"
  | _ => "Prisma directory holding the migrations folder"

/-- The options of a place in their order, each with what is said about it. -/
def optionNotes (environment : Option String) (level : Level) : List (String × String) :=
  let policy := "Override the filter policy path [env: MIGSQUASH_POLICY=" ++ environment.getD "" ++ "]"
  let shared := [("-v, --verbose", "Enable verbose output"),
    ("-c, --config <CONFIG>", "Config file path (default: ./migsquash.yml if present)"),
    ("    --policy <POLICY>", policy)]
  let help := ("-h, --help", "Print help")
  match level with
  | none => shared ++ [help, ("-V, --version", "Print version")]
  | some .analyze =>
    shared.take 1 ++
      [("-o, --output <OUTPUT>", "Output format [default: table] [possible values: table, json]")] ++
      shared.drop 1 ++ [help]
  | some .reconcile =>
    [("    --write", "Rewrite the report files in the current migration folder")] ++ shared ++ [help]
  | some _ => shared ++ [help]

/-- Lines of terms and notes, the notes in one column. -/
def noteLines (notes : List (String × String)) : List String :=
  let width := notes.foldl (fun w n => max w n.1.length) 0
  notes.map fun (term, note) => "  " ++ Table.padded term width ++ "  " ++ note

/-- The help on a command, or on the program. -/
def helpText (environment : Option String) (level : Level) : String :=
  let about := match level with
    | none => "migsquash CLI - consolidate a Prisma migration history into one migration"
    | some command => command.summary
  let parts := match level with
    | none =>
      ["", "Commands:"] ++ noteLines (CommandName.all.map (fun c => (c.text, c.summary)) ++
        [("help", "Print this message or the help of the given subcommand(s)")])
    | some .rules => []
    | some command =>
      ["", "Arguments:", "  [PRISMA_DIR]  " ++ schemaNote command ++ " [default: prisma]"]
  let lines := [about, "", "Usage: " ++ programTitle ++ " " ++ usageOf level] ++ parts ++
    ["", "Options:"] ++ noteLines (optionNotes environment level)
  String.join (lines.map (· ++ "\n"))

end SchemaHistory.CommandLine
