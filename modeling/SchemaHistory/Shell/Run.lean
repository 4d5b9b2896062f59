import SchemaHistory.Shell.File
import SchemaHistory.Shell.Text

/-!
Running shell scripts.

A script may start other scripts, to a fixed depth. There is no other program than the ones known here;
no file can be started as a program.
-/

namespace SchemaHistory.Shell

/-! ### Programs -/

/-- The programs that are not the shell. Started by a shell, `echo` reads escapes. -/
def utility? (inShell : Bool) (name : String) : Option (List String → State → State) :=
  match name with
  | "true" => some fun _ s => s.withStatus 0
  | "false" => some fun _ s => s.withStatus 1
  | "echo" => some (echo inShell)
  | "printf" => some printFormat
  | "cat" => some concatenate
  | "mkdir" => some makeDirectories
  | "touch" => some touch
  | "ln" => some makeLink
  | "ls" => some listNames
  | "rm" => some remove
  | "rmdir" => some removeDirectories
  | "cp" => some copy
  | "mv" => some move
  | "test" => some (test "test")
  | "[" => some (test "[")
  | "sleep" => some fun _ s => s.withStatus 0
  | "pwd" => some fun _ s =>
    (s.print ((Path.ofSegments ([] :: s.files.workingDirectory)).text ++ "\n")).withStatus 0
  | _ => none

/-- Whether a program is a shell. -/
def isShell (name : String) : Bool := name == "sh" || name == "dash" || name == "bash"

/-- The signal that an option of `kill` names. -/
def signal? (text : String) : Option Nat :=
  match text.toNat? with
  | some n => some n
  | none =>
    let name := if "SIG".isPrefixOf text then String.ofList (text.toList.drop 3) else text
    (Termination.signalNames.find? (·.2 == name)).map (·.1)

/-- Sends a signal to a process. Only the shell itself can be reached. -/
def kill (arguments : List String) (s : State) : State :=
  let (signal, processes) := match arguments with
    | "-s" :: name :: rest => (signal? name, rest)
    | a :: rest =>
      match a.toList with
      | '-' :: name => (signal? (String.ofList name), rest)
      | _ => (some 15, a :: rest)
    | [] => (some 15, [])
  match signal with
  | none => (s.complain (s.message "kill: invalid signal number or name")).withStatus 2
  | some n =>
    if processes.contains State.processNumber then
      if n == 0 then s.withStatus 0 else { s with ended := some (.killed n) }
    else s.fail (s.message "kill: No such process")

/-- Ends the script. -/
def exit (arguments : List String) (s : State) : State :=
  match arguments with
  | [] => { s with ended := some (.exited s.status) }
  | a :: _ =>
    match a.toNat? with
    | some n => { s with ended := some (.exited (n % 256)) }
    | none => { s.complain (s.message ("exit: Illegal number: " ++ a)) with ended := some (.exited 2) }

/-- Goes to a directory. -/
def changeDirectory (arguments : List String) (s : State) : State :=
  let target := arguments.headD ""
  match s.files.resolve (.ofString target) with
  | .ok (l, .directory) =>
    { s with files := { s.files with workingDirectory := l } }.withStatus 0
  | _ => (s.complain (s.message ("cd: can't cd to " ++ target))).withStatus 2

/-- Sets options of the shell, or its arguments. -/
def setOptions (arguments : List String) (s : State) : State :=
  match arguments with
  | "--" :: rest => { s with arguments := rest }.withStatus 0
  | a :: _ =>
    match a.toList with
    | '-' :: letters => { s with strict := s.strict || letters.contains 'e' }.withStatus 0
    | '+' :: letters => { s with strict := s.strict && !letters.contains 'e' }.withStatus 0
    | _ => { s with arguments := arguments }.withStatus 0
  | [] => s.withStatus 0

/-- The commands that only a shell has. -/
def builtin? (name : String) : Option (List String → State → State) :=
  match name with
  | ":" => some fun _ s => s.withStatus 0
  | "exit" => some exit
  | "cd" => some changeDirectory
  | "set" => some setOptions
  | "kill" => some kill
  | "export" => some fun arguments s =>
    arguments.foldl (fun s a =>
      match assignment? [.text a.toList false] with
      | some (name, value) => s.assign name (s.textOf value)
      | none => s) (s.withStatus 0)
  | "shift" => some fun _ s => { s with arguments := s.arguments.drop 1 }.withStatus 0
  | _ => none

/-- What is behind a path to a program of the system. -/
def programName (name : String) : String :=
  match (Path.ofString name).segments with
  | [[], directory, last] =>
    if directory == Bytes.ofString "bin" then Bytes.shown last else name
  | [[], usr, directory, last] =>
    if usr == Bytes.ofString "usr" && directory == Bytes.ofString "bin" then Bytes.shown last else name
  | _ => name

/-- Why a program cannot be started that is not known. -/
def startError (name : String) (files : FileSystem) : SystemError :=
  if name.toList.contains '/' then
    match files.resolve (.ofString name) with
    | .ok _ => .permissionDenied
    | .error e => e
  else .notFound

/-! ### Commands -/

/-- What starting a shell with some arguments does to the state of the shell that starts it. -/
abbrev Invocation := String → List String → State → State

/-- Runs a program that is named by a word. -/
def runNamed (invoke : Invocation) (name : String) (arguments : List String) (s : State) : State :=
  match builtin? name with
  | some f => f arguments s
  | none =>
    let program := programName name
    if isShell program then invoke name arguments s
    else
      match utility? true program with
      | some f => f arguments s
      | none =>
        match startError name s.files with
        | .permissionDenied => (s.complain (s.message (name ++ ": Permission denied"))).withStatus 126
        | _ => (s.complain (s.message (name ++ ": not found"))).withStatus 127

/-- Ends a strict script after a failure that nothing looks at. -/
def settled (checked : Bool) (s : State) : State :=
  if s.strict && !checked && s.status != 0 && s.ended.isNone then
    { s with ended := some (.exited s.status) }
  else s

/-- Does something with redirected descriptors. -/
def withRedirections (rs : List Redirection) (f : State → State) (s : State) : State :=
  match s.redirectAll rs with
  | .ok redirected => (f redirected).restore s
  | .error text => (s.complain (s.message text)).withStatus 2

/-- The state behind something that had a shell of its own. -/
def State.rejoin (inner outer : State) : State :=
  let status := match inner.termination with
    | .exited n => n
    | .killed n => 128 + n
  { outer with
    files := { inner.files with workingDirectory := outer.files.workingDirectory }
    output := inner.output
    errors := inner.errors
    piped := inner.piped
    status }

/-- Runs a command. `checked` says whether its status is looked at. -/
def run (invoke : Invocation) : Command → (checked : Bool) → State → State
  | .nothing, _, s => s.withStatus 0
  | .simple assignments words rs, checked, s =>
    settled checked <| withRedirections rs (fun s =>
      match s.expand words with
      | [] => (assignments.foldl (fun s (name, w) => s.assign name (s.textOf w)) s).withStatus 0
      | name :: arguments => runNamed invoke name arguments s) s
  | .redirected body rs, checked, s => withRedirections rs (run invoke body checked) s
  | .subshell body, checked, s => settled checked ((run invoke body checked s).rejoin s)
  | .sequence first second, checked, s =>
    let s := run invoke first checked s
    match second with
    | .nothing => s
    | _ => if s.ended.isSome then s else run invoke second checked s
  | .both first second, checked, s =>
    let s := run invoke first true s
    if s.ended.isSome || s.status != 0 then s else run invoke second checked s
  | .either first second, checked, s =>
    let s := run invoke first true s
    if s.ended.isSome || s.status == 0 then s else run invoke second checked s
  | .negation body, _, s =>
    let s := run invoke body true s
    if s.ended.isSome then s else s.withStatus (if s.status == 0 then 1 else 0)
  | .pipe first second, checked, s =>
    let wrote := (run invoke first true { s with out := .pipe, piped := [] }).rejoin s
    let read := run invoke second true { wrote with input := wrote.piped, piped := s.piped }
    settled checked (read.rejoin s)
  | .conditional test yes no, checked, s =>
    let s := run invoke test true s
    if s.ended.isSome then s
    else if s.status == 0 then run invoke yes checked s
    else run invoke no checked s
  | .each name words body, checked, s =>
    (s.expand words).foldl (fun s word =>
      if s.ended.isSome then s else run invoke body checked (s.assign name word)) (s.withStatus 0)

/-! ### Scripts -/

/-- A script that is to be run. -/
structure Start where
  script : String
  name : String
  arguments : List String
  strict : Bool

/-- What the arguments of a shell tell it to run. -/
def startOf (shell : String) (strict : Bool) (files : FileSystem) :
    List String → Except String Start
  | [] => .ok ⟨"", shell, [], strict⟩
  | a :: rest =>
    match a.toList with
    | '-' :: c :: letters =>
      let strict := strict || (c :: letters).contains 'e'
      if (c :: letters).contains 'c' then
        match rest with
        | [] => .error (shell ++ ": 0: -c requires an argument")
        | [script] => .ok ⟨script, shell, [], strict⟩
        | script :: name :: arguments => .ok ⟨script, name, arguments, strict⟩
      else startOf shell strict files rest
    | _ =>
      match files.readBytes (.ofString a) with
      | .ok content => .ok ⟨Bytes.shown content, a, rest, strict⟩
      | .error _ => .error (shell ++ ": 0: cannot open " ++ a ++ ": No such file")

/-- Runs a shell with some arguments, where scripts may start scripts `depth` deep. -/
def runShell : (depth : Nat) → (shell : String) → (arguments : List String) → State → State
  | 0, _, _, s => s.withStatus 2
  | depth + 1, shell, arguments, s =>
    match startOf shell false s.files arguments with
    | .error text => { s.complain text with ended := some (.exited 2) }
    | .ok start =>
      let s := { s with
        name := start.name, arguments := start.arguments, strict := start.strict
        bindings := [], status := 0, ended := none }
      match Command.parse? start.script with
      | none => { s.complain (s.message "Syntax error") with ended := some (.exited 2) }
      | some command =>
        run (fun shell arguments s => (runShell depth shell arguments s).rejoin s) command false s

/-- How deep scripts may start scripts. -/
def depthLimit : Nat := 32

/-- The programs that a shell knows. -/
def programs : Programs where
  start program arguments files :=
    let name := programName program
    let s := State.start files program arguments
    if isShell name then
      let s := runShell depthLimit program arguments s
      return (s.trace, s.termination)
    else
      match utility? false name with
      | some f =>
        let s := f arguments s
        return (s.trace, s.termination)
      | none => throw (startError program files)

end SchemaHistory.Shell
