import SchemaHistory.FileSystem.Change
import SchemaHistory.Shell.Command
import SchemaHistory.Tool.Basic

/-!
The state of a shell: files, what was written and where to, parameters, and how the last command ended.
-/

namespace SchemaHistory.Shell

/-- Where a descriptor writes to. -/
inductive Sink where
  | output
  | errors
  | pipe
  | file (location : Location)
  | nowhere
  deriving Repr, DecidableEq

/-- The state of a shell. -/
structure State where
  files : FileSystem
  output : Bytes
  errors : Bytes
  /-- What was written into the pipe. -/
  piped : Bytes
  /-- What is left to be read. -/
  input : Bytes
  out : Sink
  err : Sink
  bindings : List (String × String)
  /-- The name of the script and its arguments. -/
  name : String
  arguments : List String
  /-- The status of the last command. -/
  status : Nat
  /-- Whether a failure ends the script. -/
  strict : Bool
  ended : Option Termination

namespace State

/-- The state at the start of a script. -/
def start (files : FileSystem) (name : String) (arguments : List String) : State :=
  { files, output := [], errors := [], piped := [], input := [], out := .output, err := .errors,
    bindings := [], name, arguments, status := 0, strict := false, ended := none }

/-- Writes to a sink. -/
def writeTo (s : State) (sink : Sink) (text : Bytes) : State :=
  match sink with
  | .output => { s with output := s.output ++ text }
  | .errors => { s with errors := s.errors ++ text }
  | .pipe => { s with piped := s.piped ++ text }
  | .nowhere => s
  | .file l =>
    match s.files.entry? l with
    | some (.file content) => { s with files := s.files.put l (.file (content ++ text)) }
    | _ => s

/-- Writes to the standard output. -/
def write (s : State) (text : Bytes) : State := s.writeTo s.out text

/-- Writes a text to the standard output. -/
def print (s : State) (text : String) : State := s.write (.ofString text)

/-- Writes a line to the standard error. -/
def complain (s : State) (line : String) : State := s.writeTo s.err (.ofString (line ++ "\n"))

/-- The state with another status. -/
def withStatus (s : State) (n : Nat) : State := { s with status := n }

/-- Writes a line to the standard error and fails. -/
def fail (s : State) (line : String) : State := (s.complain line).withStatus 1

/-- How the script ended. -/
def termination (s : State) : Termination := s.ended.getD (.exited s.status)

/-- What is left of the script. -/
def trace (s : State) : Trace := ⟨s.files, s.output, s.errors⟩

/-- What a shell says about an error of its own. -/
def message (s : State) (text : String) : String := s.name ++ ": 1: " ++ text

/-! ### Parameters -/

/-- The number of the process. A shell knows it only to name itself. -/
def processNumber : String := "2"

/-- The value of a parameter. -/
def value (s : State) (name : String) : String :=
  match name with
  | "?" => toString s.status
  | "$" => processNumber
  | "#" => toString s.arguments.length
  | "0" => s.name
  | "@" => " ".intercalate s.arguments
  | "*" => " ".intercalate s.arguments
  | _ =>
    match name.toNat? with
    | some n => (s.arguments[n - 1]?).getD ""
    | none => (s.bindings.lookup name).getD ""

/-- Gives a variable a value. -/
def assign (s : State) (name value : String) : State :=
  { s with bindings := (name, value) :: s.bindings.filter (·.1 != name) }

/-! ### Words -/

/-- A field: characters, each with whether it is protected. -/
abbrev Field := List (Char × Bool)

/-- The characters of a field without a meaning of their own. -/
def Field.chars (f : Field) : List Char := f.map (·.1)

/-- The text of a field. -/
def Field.text (f : Field) : String := String.ofList (chars f)

/-- The fields of a word that is read up to some part, the last of them being open. -/
structure Fields where
  done : List Field
  current : Option Field

namespace Fields

/-- Ends the field at hand. -/
def close (f : Fields) : Fields := ⟨f.done ++ f.current.toList, none⟩

/-- Adds characters to the field at hand, or starts a field with them; nothing unquoted starts no field. -/
def add (f : Fields) (chars : List Char) (quoted : Bool) : Fields :=
  if chars.isEmpty && !quoted then f
  else { f with current := some (f.current.getD [] ++ chars.map (·, quoted)) }

/-- Adds texts, the first to the open field and the others as fields of their own. -/
def addAll (f : Fields) (quoted : Bool) : List (List Char) → Fields
  | [] => f
  | [chars] => f.add chars quoted
  | chars :: more => ((f.add chars quoted).close).addAll quoted more

end Fields

/-- Adds what a part of a word stands for. Without quotes, a value is cut at its blanks. -/
def expandPart (s : State) (f : Fields) : Part → Fields
  | .text chars quoted => f.add chars quoted
  | .parameter name quoted =>
    if quoted then
      if name == "@" then f.addAll true (s.arguments.map String.toList)
      else f.add (s.value name).toList true
    else
      let cut := fun c => isSpace c || c == '\n'
      let found := pieces cut (s.value name).toList
      let whole := found.filter (!·.isEmpty)
      let opened := if (found.head?.map List.isEmpty).getD false && found.length > 1 then f.close else f
      let filled := opened.addAll false whole
      if (found.getLast?.map List.isEmpty).getD false && found.length > 1 then filled.close
      else filled

/-- The fields of a word, before names of files are looked up. -/
def fieldsOf (s : State) (w : Word) : List Field :=
  (w.foldl s.expandPart ⟨[], none⟩).close.done

/-- The text of a word that stays in one piece. -/
def textOf (s : State) (w : Word) : String :=
  String.ofList (w.flatMap fun
    | .text chars _ => chars
    | .parameter name _ => (s.value name).toList)

/-- Whether a character of a field stands for others. -/
def isWild (c : Char × Bool) : Bool := !c.2 && (c.1 == '*' || c.1 == '?')

/-- Whether a field of a pattern matches a name. -/
def matchesName : Field → List Char → Bool
  | [], name => name.isEmpty
  | (c, quoted) :: rest, name =>
    if !quoted && c == '*' then
      (List.range (name.length + 1)).any fun n => matchesName rest (name.drop n)
    else
      match name with
      | [] => false
      | d :: ds => ((!quoted && c == '?') || c == d) && matchesName rest ds

/-- The paths that segments of a pattern lead to behind a path. -/
def lookUp (fs : FileSystem) : (behind : String) → List Field → List String
  | behind, [] => [behind]
  | behind, segment :: rest =>
    if segment.any isWild then
      let directory := if behind.isEmpty then "." else behind
      let names := ((fs.listDirectory (.ofString directory)).toOption.getD []).filterMap Bytes.text?
      let hidden := (segment.head?.map (·.1 == '.')).getD false
      let found := names.filter fun n =>
        (hidden || n.toList.head? != some '.') && matchesName segment n.toList
      (found.mergeSort fun a b => decide (Bytes.ofString a ≤ Bytes.ofString b)).flatMap fun n =>
        let path := behind ++ n
        if rest.isEmpty then [path]
        else if fs.isDirectory (.ofString path) then lookUp fs (path ++ "/") rest
        else []
    else
      let path := behind ++ Field.text segment
      if rest.isEmpty then (if fs.pathExists (.ofString path) then [path] else [])
      else lookUp fs (path ++ "/") rest

/-- The texts of a field: the paths it matches, or itself. -/
def textsOf (s : State) (f : Field) : List String :=
  let found := if f.any isWild then lookUp s.files "" (pieces (·.1 == '/') f) else []
  if found.isEmpty then [Field.text f] else found

/-- The texts of some words. -/
def expand (s : State) (ws : List Word) : List String := (ws.flatMap s.fieldsOf).flatMap s.textsOf

/-! ### Redirections -/

/-- The sink of a descriptor. -/
def sinkOf (s : State) (descriptor : Nat) : Sink :=
  if descriptor == 1 then s.out else if descriptor == 2 then s.err else .nowhere

/-- Makes a descriptor write to a sink. -/
def attach (s : State) (descriptor : Nat) (sink : Sink) : State :=
  if descriptor == 1 then { s with out := sink }
  else if descriptor == 2 then { s with err := sink }
  else s

/-- The file that takes everything and keeps nothing. -/
def nullFile : Location := [.ofString "dev", .ofString "null"]

/-- Opens a file for writing. -/
def openFile (s : State) (path : Path) (atEnd : Bool) : Except SystemError (State × Sink) := do
  let l ← s.files.locate true path
  if l == nullFile then return (s, .nowhere)
  else
    match atEnd, s.files.entry? l with
    | true, some (.file _) => return (s, .file l)
    | _, _ => return ({ s with files := ← s.files.writeBytes path [] }, .file l)

/-- What is said about a file that cannot be made. -/
def creationError : SystemError → String
  | .notFound => "Directory nonexistent"
  | .notDirectory => "Directory nonexistent"
  | e => e.reason

/-- Carries out a redirection, and gives what is to be said if it fails. -/
def redirect (s : State) : Redirection → Except String State
  | .toFile descriptor w atEnd =>
    let text := s.textOf w
    match s.openFile (.ofString text) atEnd with
    | .ok (s, sink) => .ok (s.attach descriptor sink)
    | .error e => .error ("cannot create " ++ text ++ ": " ++ creationError e)
  | .fromFile descriptor w =>
    let text := s.textOf w
    match s.files.readBytes (.ofString text) with
    | .ok content => .ok (if descriptor == 0 then { s with input := content } else s)
    | .error _ => .error ("cannot open " ++ text ++ ": No such file")
  | .copyOf descriptor w =>
    match (s.textOf w).toNat? with
    | some other => .ok (s.attach descriptor (s.sinkOf other))
    | none => .ok (s.attach descriptor .nowhere)

/-- Carries out a list of redirections. -/
def redirectAll (s : State) (rs : List Redirection) : Except String State :=
  rs.foldlM redirect s

/-- Takes back what redirections did to the descriptors of an earlier state. -/
def restore (s earlier : State) : State :=
  { s with out := earlier.out, err := earlier.err, input := earlier.input }

end State

end SchemaHistory.Shell
