import SchemaHistory.Command.Consolidate
import SchemaHistory.Command.Rules
import SchemaHistory.CommandLine.Help

/-!
Running the program.

The exit code is zero if all went well, one if a command could not go on or if a comparison found missing
statements, and two if the command line was wrong.
-/

namespace SchemaHistory.CommandLine

/-- What a run of the program leaves behind. -/
structure Result where
  code : Nat
  files : FileSystem
  output : Bytes
  /-- What was written to the standard error, other than on the use of the program. -/
  errors : Bytes

namespace Result

/-- The result of a session, whose command gives an exit code if it does not stop. -/
def ofSession (x : Session.Action Nat) (files : FileSystem) : Result :=
  match x.run (.start files) with
  | .ok code s => ⟨code, s.files, s.output, s.errors⟩
  | .error abort s => ⟨1, s.files, s.output, s.errors ++ Bytes.ofString abort.text⟩

end Result

/-- Answers a request. -/
def answer (at_ : Circumstances) (programs : Programs) (environment : Option String)
    (files : FileSystem) : Request → Result
  | .consolidate settings schema =>
    .ofSession (do Command.consolidate at_ programs settings schema; return 0) files
  | .analyze settings schema format =>
    .ofSession (do Command.analyze settings schema format; return 0) files
  | .reconcile settings schema write =>
    .ofSession (do return if ← Command.reconcile at_ settings schema write then 0 else 1) files
  | .rules settings => .ofSession (do Command.rules settings; return 0) files
  | .help command => ⟨0, files, .ofString (helpText environment command), []⟩
  | .version => ⟨0, files, .ofString versionText, []⟩

/-- Runs the program with some arguments. -/
def run (at_ : Circumstances) (programs : Programs) (environment : Option String)
    (arguments : List String) (files : FileSystem) : Result :=
  match request? environment arguments with
  | some request => answer at_ programs environment files request
  | none => ⟨2, files, [], []⟩

end SchemaHistory.CommandLine
