import SchemaHistory.Failure
import SchemaHistory.Timestamp
import SchemaHistory.Tool.Basic

/-!
A session: one run of one command.

A command works on files and prints. It may call the external tool, and what the tool prints stands where
it was printed. A command that cannot go on says what it was about to do and why it could not; what it
did before stays.
-/

namespace SchemaHistory

/-- What a command is about to do. -/
inductive Activity where
  | loadingConfig (path : Option Path)
  | loadingPolicy (path : Path)
  | listingMigrations
  | listingBackup
  | readingMigrations
  | backingUp
  | readingRegenerated
  | readingCurrent
  | writingReports
  deriving Repr, DecidableEq

/-- What is said if an activity fails. Of some nothing is said. -/
def Activity.text? : Activity → Option String
  | loadingConfig (some path) => some ("Failed to load config " ++ path.text)
  | loadingConfig none => some "Failed to load config"
  | loadingPolicy path => some ("Failed to load filter policy " ++ path.text)
  | listingMigrations => some "Failed to list migrations"
  | listingBackup => some "Failed to list backed-up migrations"
  | readingMigrations => none
  | backingUp => some "Failed to back up migrations"
  | readingRegenerated => some "Failed to read the regenerated migration"
  | readingCurrent => some "Failed to read the current migration"
  | writingReports => some "Failed to write reports"

/-- What is said if a step of the tool fails. -/
def ToolStep.failureText : ToolStep → String
  | reset => "Database reset failed"
  | generate => "Migration generation failed"

/-- Why a command cannot go on. -/
inductive Abort where
  | failed (activity : Activity) (failure : Failure)
  | toolFailed (step : ToolStep) (error : ToolError)
  | noMigrations (path : Path)
  deriving Repr, DecidableEq

namespace Abort

/-- What is said, from the outside in: what failed, why, and what the system said. -/
def reasons : Abort → List String
  | failed activity failure =>
    activity.text?.toList ++ failure.message :: (failure.cause?.map SystemError.message).toList
  | toolFailed step error =>
    step.failureText :: error.message :: (error.cause?.map SystemError.message).toList
  | noMigrations path => ["No migration folders found in " ++ path.text]

/-- A text whose first line starts with a mark and whose other lines are indented as far. -/
def indented (mark : String) (text : String) : String :=
  let gap := String.ofList (List.replicate mark.length ' ')
  mark ++ ("\n" ++ gap).intercalate ((pieces (· == '\n') text.toList).map String.ofList)

/-- The mark of one of several reasons, in a width of five. -/
def numberMark (n : Nat) : String :=
  let digits := toString n
  String.ofList (List.replicate (5 - digits.length) ' ') ++ digits ++ ": "

/-- The reasons in lines: the first one, and below it what caused it. Several causes are numbered. -/
def text (a : Abort) : String :=
  match a.reasons with
  | [] => ""
  | [reason] => "Error: " ++ reason ++ "\n"
  | [reason, cause] => "Error: " ++ reason ++ "\n\nCaused by:\n" ++ indented "    " cause ++ "\n"
  | reason :: causes =>
    "Error: " ++ reason ++ "\n\nCaused by:\n" ++
      "\n".intercalate (causes.zipIdx.map fun (cause, n) => indented (numberMark n) cause) ++ "\n"

end Abort

/-- The state of a session. -/
structure Session where
  files : FileSystem
  /-- What was printed, by the command or by the tool. -/
  output : Bytes
  /-- What the tool wrote to the standard error. -/
  errors : Bytes
  /-- The steps of the tool that were called, in order. -/
  calls : List ToolStep

namespace Session

/-- The session before the command does anything. -/
def start (files : FileSystem) : Session := ⟨files, [], [], []⟩

/-- Steps of a command. -/
abbrev Action (α : Type) := EStateM Abort Session α

/-- Prints a line. -/
def printLine (line : String) : Action Unit :=
  modify fun s => { s with output := s.output ++ Bytes.ofString (line ++ "\n") }

/-- Prints lines. -/
def printLines (lines : List String) : Action Unit := lines.forM printLine

/-- Asks about the files. -/
def ask {α : Type} (activity : Activity) (f : FileSystem → Except Failure α) : Action α := fun s =>
  match f s.files with
  | .ok a => .ok a s
  | .error e => .error (.failed activity e) s

/-- Works on the files. -/
def act {α : Type} (activity : Activity) (x : FileSystem.Action Failure α) : Action α := fun s =>
  match x.run s.files with
  | .ok a files => .ok a { s with files }
  | .error e files => .error (.failed activity e) { s with files }

/-- Calls a step of the tool. -/
def call (tool : Tool) (step : ToolStep) : Action Unit := fun s =>
  let (trace, result) := tool.run step s.files
  let s := {
    files := trace.files
    output := s.output ++ trace.output
    errors := s.errors ++ trace.errors
    calls := s.calls ++ [step] }
  match result with
  | .ok _ => .ok () s
  | .error e => .error (.toolFailed step e) s

end Session

end SchemaHistory
