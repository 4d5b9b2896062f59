import SchemaHistory.FileSystem.Basic

/-!
The external tool.

It resets the database, and it generates a migration from the schema. What it does to the file system and
what it prints is its own affair; each step succeeds or fails. A tool given by two commands runs them in
one directory, and a step fails if its command cannot be started or ends with anything but success.
-/

namespace SchemaHistory

/-- The steps of the tool. -/
inductive ToolStep where
  | reset
  | generate
  deriving Repr, DecidableEq

/-- How a program ended. -/
inductive Termination where
  | exited (status : Nat)
  | killed (signal : Nat)
  deriving Repr, DecidableEq

namespace Termination

/-- Whether the tool ended with status 0. -/
def isSuccess (t : Termination) : Bool := t == exited 0

/-- The names of signals by their numbers. -/
def signalNames : List (Nat × String) :=
  [(1, "HUP"), (2, "INT"), (3, "QUIT"), (4, "ILL"), (5, "TRAP"), (6, "ABRT"), (7, "BUS"), (8, "FPE"),
    (9, "KILL"), (10, "USR1"), (11, "SEGV"), (12, "USR2"), (13, "PIPE"), (14, "ALRM"), (15, "TERM")]

/-- How the end of a tool is shown. -/
def text : Termination → String
  | exited status => "exit status: " ++ toString status
  | killed signal =>
    "signal: " ++ toString signal ++
      (match signalNames.lookup signal with
        | some name => " (SIG" ++ name ++ ")"
        | none => "")

end Termination

/-- Why a step of the tool failed. -/
inductive ToolError where
  | notStarted (command : String) (error : SystemError)
  | unsuccessful (command : String) (termination : Termination)
  | noCommand (step : ToolStep)
  deriving Repr, DecidableEq

/-- The name of a step. -/
def ToolStep.name : ToolStep → String
  | reset => "reset"
  | generate => "generate"

namespace ToolError

/-- An error in words. -/
def message : ToolError → String
  | notStarted command error => "[T001] Failed to run '" ++ command ++ "': " ++ error.message
  | unsuccessful command termination => "[T002] '" ++ command ++ "' exited with " ++ termination.text
  | noCommand step => "[T003] No command configured for " ++ step.name

/-- What the system said, where it did not start a command. -/
def cause? : ToolError → Option SystemError
  | notStarted _ error => some error
  | _ => none

end ToolError

/-- What is left of a run outside the program. -/
structure Trace where
  files : FileSystem
  /-- What was written to the standard output. -/
  output : Bytes
  /-- What was written to the standard error. -/
  errors : Bytes

namespace Trace

/-- The trace of a run that did nothing. -/
def idle (files : FileSystem) : Trace := ⟨files, [], []⟩

end Trace

/-- The tool. A step takes place on a file system. -/
structure Tool where
  run : ToolStep → FileSystem → Trace × Except ToolError Unit

/-- The programs that can be started: what the one with a name does with its arguments in the working
directory of a file system. -/
structure Programs where
  start : (program : String) → (arguments : List String) → FileSystem →
    Except SystemError (Trace × Termination)

namespace Programs

/-- Runs a program in a directory, and leaves the working directory as it was. -/
def startIn (programs : Programs) (directory : Path) (program : String) (arguments : List String)
    (fs : FileSystem) : Except SystemError (Trace × Termination) := do
  if directory.bytes.contains 0 || (program :: arguments).any (·.toList.contains (Char.ofNat 0)) then
    throw .nulInArgument
  else
    let (l, e) ← fs.resolve directory
    if e != .directory then throw .notDirectory
    else
      let (trace, termination) ← programs.start program arguments { fs with workingDirectory := l }
      let files := { trace.files with workingDirectory := fs.workingDirectory }
      return ({ trace with files := files }, termination)

/-- Runs the command of a step. -/
def runCommand (programs : Programs) (directory : Path) (step : ToolStep) (command : List String)
    (fs : FileSystem) : Trace × Except ToolError Unit :=
  match command with
  | [] => (.idle fs, .error (.noCommand step))
  | program :: arguments =>
    let line := " ".intercalate command
    match programs.startIn directory program arguments fs with
    | .error e => (.idle fs, .error (.notStarted line e))
    | .ok (trace, termination) =>
      (trace, if termination.isSuccess then .ok () else .error (.unsuccessful line termination))

end Programs

/-- The tool that runs two commands in a directory. -/
def Tool.ofCommands (programs : Programs) (directory : Path) (reset generate : List String) : Tool where
  run step fs :=
    match step with
    | .reset => programs.runCommand directory step reset fs
    | .generate => programs.runCommand directory step generate fs

/-- What the tool is called: the program that generates. -/
def Tool.nameOf (generate : List String) : String := generate.head?.getD "command"

end SchemaHistory
