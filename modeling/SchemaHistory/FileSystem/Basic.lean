import SchemaHistory.FileSystem.Error
import SchemaHistory.Path

/-!
A file system, and what a path leads to in it.

Every entry has a location, the names that lead to it from the root, and the directory of an entry is an
entry too. A path is walked segment by segment, from the root or from the working directory. A link on
the way is replaced by the path it holds, at most forty times in one walk; a link at the end is replaced
only where it is to be followed. All segments but the last must lead to directories, and the last one
may lead to nothing.

There are no permissions and no owners: every entry can be read and changed. No two locations share a file,
as hard links would. And there is room for every file: no disk is full and no quota used up, except where a
change says that it may be stopped. What is shown of files holds within these limits.
-/

namespace SchemaHistory

/-- The names that lead from the root to an entry. -/
abbrev Location := List Bytes

/-- What can be at a location. -/
inductive Entry where
  | file (content : Bytes)
  | directory
  | link (target : Path)
  deriving Repr, DecidableEq

/-- A file system. The root is not listed among its entries. -/
structure FileSystem where
  entries : List (Location × Entry)
  workingDirectory : Location
  deriving Repr, DecidableEq

namespace FileSystem

/-- The entry at a location. -/
def entry? (fs : FileSystem) (l : Location) : Option Entry :=
  if l.isEmpty then some .directory else fs.entries.lookup l

/-- The names in the directory at a location, in the order of the entries. -/
def namesIn (fs : FileSystem) (l : Location) : List Bytes :=
  fs.entries.filterMap fun (at_, _) =>
    if at_.dropLast == l then at_.getLast? else none

/-- The entries below a location, each with the names that lead to it from there. -/
def below (fs : FileSystem) (l : Location) : List (Location × Entry) :=
  fs.entries.filterMap fun (at_, e) =>
    if l.isPrefixOf at_ && at_.length != l.length then some (at_.drop l.length, e) else none

/-! ### Walking -/

/-- The longest name of an entry, in bytes. -/
def nameLimit : Nat := 255

/-- The number of bytes that a path has to stay below. -/
def pathLimit : Nat := 4096

/-- How many links one walk may follow. -/
def linkLimit : Nat := 40

/-- Walks a list of segments from a directory. `follow` goes on where a link is followed. -/
def walkWith (fs : FileSystem) (followLast : Bool)
    (follow : Location → List Bytes → Except SystemError Location) :
    Location → List Bytes → Except SystemError Location
  | l, [] => .ok l
  | l, segment :: rest =>
    if Path.isTrivial segment then walkWith fs followLast follow l rest
    else if segment == Path.above then walkWith fs followLast follow l.dropLast rest
    else if nameLimit < segment.length then .error .nameTooLong
    else
      let next := l ++ [segment]
      match fs.entry? next with
      | some .directory => walkWith fs followLast follow next rest
      | some (.link target) =>
        if rest.isEmpty && !followLast then .ok next
        else follow (if target.isAbsolute then [] else l) (target.segments ++ rest)
      | some (.file _) => if rest.isEmpty then .ok next else .error .notDirectory
      | none => if rest.isEmpty then .ok next else .error .notFound

/-- Walks a list of segments from a directory and follows at most a number of links. -/
def walk (fs : FileSystem) (followLast : Bool) :
    (links : Nat) → Location → List Bytes → Except SystemError Location
  | 0 => fs.walkWith followLast fun _ _ => .error .tooManyLinks
  | links + 1 => fs.walkWith followLast (fs.walk followLast links)

/-- The segments of a path that is neither empty nor too long. -/
def segmentsOf (p : Path) : Except SystemError (List Bytes) :=
  if p.bytes.contains 0 then .error .nulInPath
  else if p.isEmpty then .error .notFound
  else if pathLimit ≤ p.bytes.length then .error .nameTooLong
  else .ok p.segments

/-- Where a walk along a path starts. -/
def startOf (fs : FileSystem) (p : Path) : Location :=
  if p.isAbsolute then [] else fs.workingDirectory

/-- The location that a path leads to, where there may be nothing. -/
def locate (fs : FileSystem) (followLast : Bool) (p : Path) : Except SystemError Location := do
  fs.walk followLast linkLimit (fs.startOf p) (← segmentsOf p)

/-- The entry that a path leads to, never a link. -/
def resolve (fs : FileSystem) (p : Path) : Except SystemError (Location × Entry) := do
  let l ← fs.locate true p
  match fs.entry? l with
  | some e => return (l, e)
  | none => throw .notFound

/-! ### Questions -/

/-- Whether a path leads to an entry. -/
def pathExists (fs : FileSystem) (p : Path) : Bool := (fs.resolve p).toOption.isSome

/-- Whether a path leads to a directory. -/
def isDirectory (fs : FileSystem) (p : Path) : Bool :=
  match fs.resolve p with
  | .ok (_, .directory) => true
  | _ => false

/-- Whether a path leads to a file. -/
def isFile (fs : FileSystem) (p : Path) : Bool :=
  match fs.resolve p with
  | .ok (_, .file _) => true
  | _ => false

/-- The content of a file. -/
def readBytes (fs : FileSystem) (p : Path) : Except SystemError Bytes := do
  match ← fs.resolve p with
  | (_, .file content) => return content
  | _ => throw .isDirectory

/-- The content of a file as text. -/
def readText (fs : FileSystem) (p : Path) : Except SystemError String := do
  match Bytes.text? (← fs.readBytes p) with
  | some text => return text
  | none => throw .notText

/-- The names in a directory. -/
def listDirectory (fs : FileSystem) (p : Path) : Except SystemError (List Bytes) := do
  match ← fs.resolve p with
  | (l, .directory) => return fs.namesIn l
  | _ => throw .notDirectory

end FileSystem

end SchemaHistory
