import SchemaHistory.Command.Analyze

/-!
Reading the command line.

Options of all commands may stand before the command and behind it; behind it they have precedence. An
option may be given once in each of the two places, and its value is not empty. A value that starts with a
hyphen must be attached to its option, and so must the value of a cluster of short options that the last
of them takes. Two hyphens end the options. Names are neither abbreviated nor written in capitals.

Arguments are read from left to right, and the first that asks for help or for the version ends the
reading.
-/

namespace SchemaHistory.CommandLine

/-- The commands by name. -/
inductive CommandName where
  | consolidate
  | analyze
  | reconcile
  | rules
  deriving Repr, DecidableEq

namespace CommandName

/-- The commands, in the order in which they are listed. -/
def all : List CommandName := [consolidate, analyze, reconcile, rules]

/-- The word that names a command on the command line. -/
def text : CommandName → String
  | consolidate => "consolidate"
  | analyze => "analyze"
  | reconcile => "reconcile"
  | rules => "rules"

/-- The command with a name. -/
def ofText? (s : String) : Option CommandName := all.find? fun c => c.text == s

end CommandName

/-- What a command line asks for. -/
inductive Request where
  | consolidate (settings : Settings) (schema : Path)
  | analyze (settings : Settings) (schema : Path) (format : Command.Format)
  | reconcile (settings : Settings) (schema : Path) (write : Bool)
  | rules (settings : Settings)
  | help (command : Option CommandName)
  | version
  deriving Repr, DecidableEq

/-- An option, or a way to end the reading. -/
inductive Switch where
  | verbose
  | config
  | policy
  | output
  | write
  | help
  | version
  deriving Repr, DecidableEq

namespace Switch

/-- Whether an option has a value. -/
def takesValue : Switch → Bool
  | config => true
  | policy => true
  | output => true
  | _ => false

end Switch

/-- What is read at one place: before the command, where there is none yet, or behind it. -/
abbrev Level := Option CommandName

namespace Level

/-- The options that can stand at a place, each with its long name and its letter. -/
def options (level : Level) : List (Switch × String × Option Char) :=
  [(.verbose, "verbose", some 'v'), (.config, "config", some 'c'), (.policy, "policy", none),
    (.help, "help", some 'h')] ++
  match level with
  | none => [(.version, "version", some 'V')]
  | some .analyze => [(.output, "output", some 'o')]
  | some .reconcile => [(.write, "write", none)]
  | some _ => []

/-- The option with a long name. -/
def long? (level : Level) (name : String) : Option Switch :=
  ((options level).find? fun o => o.2.1 == name).map (·.1)

/-- The option with a letter. -/
def short? (level : Level) (letter : Char) : Option Switch :=
  ((options level).find? fun o => o.2.2 == some letter).map (·.1)

/-- Whether something other than options can stand behind the command. -/
def takesSchema : Level → Bool
  | some .consolidate => true
  | some .analyze => true
  | some .reconcile => true
  | _ => false

end Level

/-- What has been read at one place. -/
structure Found where
  given : List (Switch × String)
  schema : Option String

namespace Found

/-- No arguments found. -/
def nothing : Found := ⟨[], none⟩

/-- The value of an option. -/
def value? (f : Found) (o : Switch) : Option String := f.given.lookup o

/-- Whether an option has been given. -/
def has (f : Found) (o : Switch) : Bool := (f.value? o).isSome

end Found

/-- How the reading can end early. -/
inductive Stop where
  | wrong
  | done (r : Request)
  deriving Repr, DecidableEq

/-- Whether a text can be the value of an option. -/
def isValue (o : Switch) (value : String) : Bool :=
  match o with
  | .output => value == "table" || value == "json"
  | _ => value != ""

/-- Records an option that ends nothing. -/
def record (f : Found) (o : Switch) (value : String) : Except Stop Found :=
  if f.has o then .error .wrong
  else if o.takesValue && !isValue o value then .error .wrong
  else .ok { f with given := (o, value) :: f.given }

/-- Records an option without a value. -/
def recordFlag (level : Level) (f : Found) (o : Switch) : Except Stop Found :=
  match o with
  | .help => .error (.done (.help level))
  | .version => .error (.done .version)
  | _ => record f o ""

/-- What an argument does. -/
inductive Effect where
  | found (f : Found)
  | needsValue (f : Found) (o : Switch)

/-- Reads a long option without its hyphens. -/
def readLong (level : Level) (f : Found) (text : List Char) : Except Stop Effect := do
  let name := text.takeWhile (· != '=')
  let value := text.drop name.length
  match Level.long? level (String.ofList name), value with
  | none, _ => throw .wrong
  | some o, _ :: value =>
    if o.takesValue then return .found (← record f o (String.ofList value)) else throw .wrong
  | some o, [] =>
    if o.takesValue then return .needsValue f o else return .found (← recordFlag level f o)

/-- Reads a cluster of short options. -/
def readShort (level : Level) : Found → List Char → Except Stop Effect
  | f, [] => .ok (.found f)
  | f, c :: rest =>
    match Level.short? level c with
    | none => .error .wrong
    | some o =>
      if o.takesValue then
        match rest with
        | [] => .ok (.needsValue f o)
        | '=' :: value => (record f o (String.ofList value)).map .found
        | value => (record f o (String.ofList value)).map .found
      else do
        let f ← recordFlag level f o
        readShort level f rest

/-- What an argument looks like. -/
inductive Shape where
  | ending
  | long (text : List Char)
  | short (letters : List Char)
  | plain

/-- The shape of an argument. -/
def shapeOf (argument : String) : Shape :=
  match argument.toList with
  | ['-', '-'] => .ending
  | '-' :: '-' :: text => .long text
  | '-' :: c :: letters => .short (c :: letters)
  | _ => .plain

/-- What the reading of one place comes to: what was found, and, before the command, the command and the
arguments behind it. -/
structure Reading where
  found : Found
  command : Option (String × List String)

/-- Takes an argument that is no option: the command, or what the command works on. -/
def takePlain (level : Level) (f : Found) (argument : String) : Except Stop Found :=
  if Level.takesSchema level && f.schema.isNone && argument != "" then
    .ok { f with schema := some argument }
  else .error .wrong

/-- Reads the arguments at one place. -/
def readLevel (level : Level) : Found → List String → Except Stop Reading
  | f, [] => .ok ⟨f, none⟩
  | f, argument :: rest =>
    match shapeOf argument with
    | .ending => do
      let f ← rest.foldlM (takePlain level) f
      return ⟨f, none⟩
    | .plain => do
      if level.isNone then return ⟨f, some (argument, rest)⟩
      else
        let f ← takePlain level f argument
        readLevel level f rest
    | .long text => do next (← readLong level f text) rest
    | .short letters => do next (← readShort level f letters) rest
where
  /-- Reads on behind an option. -/
  next : Effect → List String → Except Stop Reading
    | .found f, rest => readLevel level f rest
    | .needsValue _ _, [] => .error .wrong
    | .needsValue f o, value :: rest =>
      match shapeOf value with
      | .plain => do
        let f ← record f o value
        readLevel level f rest
      | _ => .error .wrong

/-- The policy that the environment names, where the arguments of a place name none. -/
def policyOf (environment : Option String) (f : Found) : Except Stop (Option String) :=
  match f.value? .policy, environment with
  | some path, _ => .ok (some path)
  | none, some path => if path == "" then .error .wrong else .ok none
  | none, none => .ok none

/-- Reads the arguments behind a command. `before` is what was found before it. -/
def readCommand (environment : Option String) (before : Found) (command : CommandName)
    (arguments : List String) : Except Stop Request := do
  let level : Level := some command
  let behind := (← readLevel level .nothing arguments).found
  let nearPolicy ← policyOf environment behind
  let farPolicy ← policyOf environment before
  let settings : Settings := {
    config := ((behind.value? .config).or (before.value? .config)).map Path.ofString
    policy := ((nearPolicy.or farPolicy).or environment).map Path.ofString }
  let schema := Path.ofString (behind.schema.getD "prisma")
  match command with
  | .consolidate => return .consolidate settings schema
  | .analyze =>
    return .analyze settings schema
      (if behind.value? .output == some "json" then .json else .table)
  | .reconcile => return .reconcile settings schema (behind.has .write)
  | .rules => return .rules settings

/-- Reads a command line. `environment` is the policy that the environment names. -/
def read (environment : Option String) (arguments : List String) : Except Stop Request := do
  let before ← readLevel none .nothing arguments
  match before.command with
  | none => throw .wrong
  | some (name, rest) =>
    match CommandName.ofText? name, rest with
    | some command, _ => readCommand environment before.found command rest
    | none, rest =>
      if name == "help" then
        match rest with
        | [] => return .help none
        | [topic] =>
          match CommandName.ofText? topic with
          | some command => return .help (some command)
          | none => if topic == "help" then return .help none else throw .wrong
        | _ => throw .wrong
      else throw .wrong

/-- What a command line asks for. There is nothing if it is wrong. -/
def request? (environment : Option String) (arguments : List String) : Option Request :=
  match read environment arguments with
  | .ok r => some r
  | .error (.done r) => some r
  | .error .wrong => none

end SchemaHistory.CommandLine
