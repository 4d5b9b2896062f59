import SchemaHistory.Shell.State

/-!
The programs of the shell that work on files.
-/

namespace SchemaHistory.Shell

/-- A text in single quotes, as it stands. -/
def inSingleQuotes (text : String) : String := "'" ++ text ++ "'"

/-- The letters of the options at the start of some arguments, and the other arguments. -/
def optionsOf : List String → List Char × List String
  | [] => ([], [])
  | a :: rest =>
    if a == "--" then ([], rest)
    else
      match a.toList with
      | '-' :: c :: more =>
        let (letters, operands) := optionsOf rest
        if c == '-' then (letters, operands) else (c :: more ++ letters, operands)
      | _ =>
        let (letters, operands) := optionsOf rest
        (letters, a :: operands)

/-- Does something for every operand. The status is that of a failure if there is one. -/
def forEachOperand (operands : List String) (f : String → State → State) (s : State) : State :=
  operands.foldl (fun s operand =>
    let next := f operand (s.withStatus 0)
    next.withStatus (max s.status next.status)) (s.withStatus 0)

/-- Changes the files, or says what failed. -/
def State.tryChange (s : State) (complaint : String) (f : FileSystem → Except SystemError FileSystem) :
    State :=
  match f s.files with
  | .ok files => { s with files }
  | .error e => s.fail (complaint ++ ": " ++ e.reason)

/-- Changes the files in several steps, or says what failed. -/
def State.tryAction (s : State) (complaint : String) (f : FileSystem.Action SystemError Unit) : State :=
  match f.run s.files with
  | .ok _ files => { s with files }
  | .error e files => { s with files }.fail (complaint ++ ": " ++ e.reason)

/-! ### Single files -/

/-- Writes files one after another. Without any, what is left to be read is written. -/
def concatenate (arguments : List String) (s : State) : State :=
  match (optionsOf arguments).2 with
  | [] => { s.write s.input with input := [] }.withStatus 0
  | operands =>
    forEachOperand operands (fun operand s =>
      if operand == "-" then { s.write s.input with input := [] }
      else
        match s.files.readBytes (.ofString operand) with
        | .ok content => s.write content
        | .error e => s.fail ("cat: " ++ operand ++ ": " ++ e.reason)) s

/-- Makes directories, with `-p` also those above them. -/
def makeDirectories (arguments : List String) (s : State) : State :=
  let (letters, operands) := optionsOf arguments
  if operands.isEmpty then s.fail "mkdir: missing operand"
  else
    forEachOperand operands (fun operand s =>
      let path := Path.ofString operand
      let complaint := "mkdir: cannot create directory " ++ inSingleQuotes operand
      if letters.contains 'p' then s.tryAction complaint (FileSystem.Action.makeDirectories path)
      else s.tryChange complaint (·.makeDirectory path)) s

/-- Makes files that are not there. -/
def touch (arguments : List String) (s : State) : State :=
  let (_, operands) := optionsOf arguments
  if operands.isEmpty then s.fail "touch: missing file operand"
  else
    forEachOperand operands (fun operand s =>
      let path := Path.ofString operand
      if s.files.pathExists path then s
      else s.tryChange ("touch: cannot touch " ++ inSingleQuotes operand) (·.writeBytes path [])) s

/-- Makes a link. -/
def makeLink (arguments : List String) (s : State) : State :=
  match optionsOf arguments with
  | (letters, [target, name]) =>
    let path := Path.ofString name
    let path := if s.files.isDirectory path then
      path.join ⟨(Path.ofString target).fileName?.getD []⟩ else path
    if letters.contains 's' then
      (s.withStatus 0).tryChange ("ln: failed to create symbolic link " ++ inSingleQuotes path.text)
        (·.makeLink path (.ofString target))
    else s.fail "ln: hard links are not supported"
  | _ => s.fail "ln: missing file operand"

/-- The names in a directory, in order, without the hidden ones. -/
def namesOf (files : FileSystem) (path : Path) : List String :=
  let names := ((files.listDirectory path).toOption.getD []).map Bytes.shown
  (names.filter fun n => n.toList.head? != some '.').mergeSort fun a b =>
    decide (Bytes.ofString a ≤ Bytes.ofString b)

/-- Lists directories. -/
def listNames (arguments : List String) (s : State) : State :=
  let operands := match (optionsOf arguments).2 with
    | [] => ["."]
    | operands => operands
  let several := operands.length > 1
  forEachOperand operands (fun operand s =>
    let path := Path.ofString operand
    match s.files.resolve path with
    | .error e =>
      (s.complain ("ls: cannot access " ++ inSingleQuotes operand ++ ": " ++ e.reason)).withStatus 2
    | .ok (_, .directory) =>
      let s := if several then s.print (operand ++ ":\n") else s
      s.print (String.join ((namesOf s.files path).map (· ++ "\n")))
    | .ok _ => s.print (operand ++ "\n")) s

/-! ### Trees -/

/-- Removes an entry and what is below it. -/
def removeTree (path : Path) (files : FileSystem) : Except SystemError FileSystem := do
  let slot ← files.slotOf path
  if !slot.isNamed then throw .invalidArgument
  else if (files.entry? slot.location).isNone then throw .notFound
  else return files.cut slot.location

/-- Removes files, with `-r` also directories. With `-f` it does not matter whether they are there. -/
def remove (arguments : List String) (s : State) : State :=
  let (letters, operands) := optionsOf arguments
  let whole := letters.contains 'r' || letters.contains 'R'
  let force := letters.contains 'f'
  if operands.isEmpty then (if force then s.withStatus 0 else s.fail "rm: missing operand")
  else
    forEachOperand operands (fun operand s =>
      let path := Path.ofString operand
      let complaint := "rm: cannot remove " ++ inSingleQuotes operand
      let result := if whole then removeTree path s.files else s.files.removeFile path
      match result with
      | .ok files => { s with files }
      | .error e => if force && e == .notFound then s else s.fail (complaint ++ ": " ++ e.reason)) s

/-- Removes empty directories. -/
def removeDirectories (arguments : List String) (s : State) : State :=
  forEachOperand (optionsOf arguments).2 (fun operand s =>
    s.tryChange ("rmdir: failed to remove " ++ inSingleQuotes operand) fun files => do
      let slot ← files.slotOf (.ofString operand)
      match files.entry? slot.location with
      | none => throw .notFound
      | some .directory =>
        if (files.below slot.location).isEmpty then return files.cut slot.location
        else throw .directoryNotEmpty
      | some _ => throw .notDirectory) s

/-- Where a source goes: into the target if that is a directory, and else in its place. -/
def targetOf (files : FileSystem) (source target : Path) : Path :=
  if files.isDirectory target then target.join ⟨source.fileName?.getD []⟩ else target

/-- Copies a directory and what is in it to a path. Directories that are there are filled. -/
def copyTree (source target : Path) (files : FileSystem) : Except SystemError FileSystem := do
  let (l, _) ← files.resolve source
  let content := files.below l
  let files ← if files.isDirectory target then pure files else files.makeDirectory target
  let (t, _) ← files.resolve target
  return content.foldl (fun (files : FileSystem) (names, e) => files.put (t ++ names) e) files

/-- Copies files, with `-r` also directories. -/
def copy (arguments : List String) (s : State) : State :=
  let (letters, operands) := optionsOf arguments
  let whole := letters.contains 'r' || letters.contains 'R' || letters.contains 'a'
  match operands.reverse with
  | [] => s.fail "cp: missing file operand"
  | [operand] => s.fail ("cp: missing destination file operand after " ++ inSingleQuotes operand)
  | last :: first =>
    let target := Path.ofString last
    if first.length > 1 && !s.files.isDirectory target then
      s.fail ("cp: target " ++ inSingleQuotes last ++ ": No such file or directory")
    else
      forEachOperand first.reverse (fun operand s =>
        let source := Path.ofString operand
        let goal := targetOf s.files source target
        match s.files.resolve source with
        | .error e => s.fail ("cp: cannot stat " ++ inSingleQuotes operand ++ ": " ++ e.reason)
        | .ok (_, .directory) =>
          if whole then
            s.tryChange ("cp: cannot create directory " ++ inSingleQuotes goal.text) (copyTree source goal)
          else s.fail ("cp: -r not specified; omitting directory " ++ inSingleQuotes operand)
        | .ok _ =>
          s.tryAction ("cp: cannot create regular file " ++ inSingleQuotes goal.text)
            (FileSystem.Action.copy source goal)) s

/-- Moves entries. -/
def move (arguments : List String) (s : State) : State :=
  let (_, operands) := optionsOf arguments
  match operands.reverse with
  | [] => s.fail "mv: missing file operand"
  | [operand] => s.fail ("mv: missing destination file operand after " ++ inSingleQuotes operand)
  | last :: first =>
    let target := Path.ofString last
    if first.length > 1 && !s.files.isDirectory target then
      s.fail ("mv: target " ++ inSingleQuotes last ++ ": No such file or directory")
    else
      forEachOperand first.reverse (fun operand s =>
        let source := Path.ofString operand
        let goal := targetOf s.files source target
        if (s.files.locate false source).toOption.isNone then
          s.fail ("mv: cannot stat " ++ inSingleQuotes operand ++ ": No such file or directory")
        else
          s.tryChange ("mv: cannot move " ++ inSingleQuotes operand ++ " to " ++ inSingleQuotes goal.text)
            (·.rename source goal)) s

/-! ### Conditions -/

/-- The entry of a path, which may be a link. -/
def linkAt (files : FileSystem) (path : String) : Bool :=
  match files.locate false (.ofString path) with
  | .ok l =>
    match files.entry? l with
    | some (.link _) => true
    | _ => false
  | .error _ => false

/-- Whether a file has any content. -/
def hasContent (files : FileSystem) (path : String) : Bool :=
  match files.resolve (.ofString path) with
  | .ok (_, .file content) => !content.isEmpty
  | .ok _ => true
  | .error _ => false

/-- Whether a condition holds, if it is one. -/
def condition? (files : FileSystem) : List String → Option Bool
  | [] => some false
  | [a] => some (a != "")
  | [operator, a] =>
    match operator with
    | "!" => some (a == "")
    | "-n" => some (a != "")
    | "-z" => some (a == "")
    | "-e" => some (files.pathExists (.ofString a))
    | "-r" => some (files.pathExists (.ofString a))
    | "-w" => some (files.pathExists (.ofString a))
    | "-f" => some (files.isFile (.ofString a))
    | "-d" => some (files.isDirectory (.ofString a))
    | "-x" => some (files.isDirectory (.ofString a))
    | "-s" => some (hasContent files a)
    | "-L" => some (linkAt files a)
    | "-h" => some (linkAt files a)
    | _ => none
  | [a, operator, b] =>
    let compare (f : Int → Int → Bool) : Option Bool := do return f (← a.toInt?) (← b.toInt?)
    match operator with
    | "=" => some (a == b)
    | "!=" => some (a != b)
    | "-eq" => compare (· == ·)
    | "-ne" => compare (· != ·)
    | "-lt" => compare (· < ·)
    | "-le" => compare (· ≤ ·)
    | "-gt" => compare (· > ·)
    | "-ge" => compare (· ≥ ·)
    | _ => if a == "!" then (condition? files [operator, b]).map (!·) else none
  | a :: rest => if a == "!" then (condition? files rest).map (!·) else none

/-- Tells by the status whether a condition holds. -/
def test (name : String) (arguments : List String) (s : State) : State :=
  let wrong (s : State) := (s.complain (s.message (name ++ ": unexpected operator"))).withStatus 2
  let decide (arguments : List String) : State :=
    match condition? s.files arguments with
    | some true => s.withStatus 0
    | some false => s.withStatus 1
    | none => wrong s
  if name == "[" then
    if arguments.getLast? == some "]" then decide arguments.dropLast
    else (s.complain (s.message "[: missing ]")).withStatus 2
  else decide arguments

end SchemaHistory.Shell
