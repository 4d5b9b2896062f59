import SchemaHistory.FileSystem.Basic

/-!
Changes to a file system.

A single change takes place or is refused, and a refused one leaves everything as it is. What is made of
several changes may be refused after the first of them; then those that took place stay. A file that is
given a content gets all of it, as there is always room, but for a file that is filled: there the system may
stop midway, and leaves the file with a part of its text.
-/

namespace SchemaHistory

/-- Steps on a file system, each of which may be refused. What took place before stays. -/
abbrev FileSystem.Action (ε α : Type) := EStateM ε FileSystem α

namespace FileSystem

/-! ### Entries -/

/-- Puts an entry at a location, in place of the one that is there. -/
def put (fs : FileSystem) (l : Location) (e : Entry) : FileSystem :=
  if (fs.entries.lookup l).isSome then
    { fs with entries := fs.entries.map fun (at_, old) => (at_, if at_ == l then e else old) }
  else { fs with entries := fs.entries ++ [(l, e)] }

/-- Removes the entry at a location and all entries below it. -/
def cut (fs : FileSystem) (l : Location) : FileSystem :=
  { fs with entries := fs.entries.filter fun (at_, _) => !l.isPrefixOf at_ }

/-- Moves the entry at a location and all entries below it to another location. -/
def relocate (fs : FileSystem) (old new : Location) : FileSystem :=
  { fs with entries := fs.entries.map fun (at_, e) =>
      (if old.isPrefixOf at_ then new ++ at_.drop old.length else at_, e) }

/-! ### Places for an entry -/

/-- Where a path would put an entry: a directory that is there, and a name in it. -/
structure Slot where
  directory : Location
  /-- The last segment, which need not be a name. -/
  name : Bytes
  /-- Whether a slash stands behind the name. -/
  slashed : Bool
  deriving Repr, DecidableEq

namespace Slot

/-- Whether the last segment names an entry. -/
def isNamed (s : Slot) : Bool := !Path.isTrivial s.name && s.name != Path.above

/-- Where the slot is. -/
def location (s : Slot) : Location := s.directory ++ [s.name]

end Slot

/-- Walks to a directory. -/
def locateDirectory (fs : FileSystem) (start : Location) (segments : List Bytes) :
    Except SystemError Location := do
  let l ← fs.walk true linkLimit start segments
  match fs.entry? l with
  | some .directory => return l
  | some _ => throw .notDirectory
  | none => throw .notFound

/-- The slot of a path. -/
def slotOf (fs : FileSystem) (p : Path) : Except SystemError Slot := do
  let segments ← segmentsOf p
  match segments.reverse.dropWhile (·.isEmpty) with
  | [] => return ⟨[], [], true⟩
  | name :: before =>
    let directory ← fs.locateDirectory (fs.startOf p) before.reverse
    if nameLimit < name.length then throw .nameTooLong
    else return ⟨directory, name, p.endsInSlash⟩

/-! ### Single changes -/

/-- Makes a directory. -/
def makeDirectory (fs : FileSystem) (p : Path) : Except SystemError FileSystem := do
  let slot ← fs.slotOf p
  if !slot.isNamed || (fs.entry? slot.location).isSome then throw .alreadyExists
  else return fs.put slot.location .directory

/-- Makes a link. -/
def makeLink (fs : FileSystem) (p target : Path) : Except SystemError FileSystem := do
  if target.isEmpty then throw .notFound
  else
    let slot ← fs.slotOf p
    if !slot.isNamed || (fs.entry? slot.location).isSome then throw .alreadyExists
    else if slot.slashed then throw .notFound
    else return fs.put slot.location (.link target)

/-- Gives a file a content, as a whole. The file need not be there; a link is followed. -/
def writeBytes (fs : FileSystem) (p : Path) (content : Bytes) : Except SystemError FileSystem := do
  if p.endsInSlash then
    let _ ← fs.slotOf p
    throw .isDirectory
  else
    let l ← fs.locate true p
    match fs.entry? l with
    | some .directory => throw .isDirectory
    | _ =>
      if l.isEmpty then throw .isDirectory
      else return fs.put l (.file content)

/-- Gives a file a text. -/
def writeText (fs : FileSystem) (p : Path) (text : String) : Except SystemError FileSystem :=
  fs.writeBytes p (.ofString text)

/-- Removes a file or a link. -/
def removeFile (fs : FileSystem) (p : Path) : Except SystemError FileSystem := do
  let slot ← fs.slotOf p
  if !slot.isNamed then throw .isDirectory
  else
    match fs.entry? slot.location with
    | none => throw .notFound
    | some .directory => throw .isDirectory
    | some _ => if slot.slashed then throw .notDirectory else return fs.cut slot.location

/-- Gives an entry another path. A file or a link may take the place of another one, and a directory that
of an empty directory. -/
def rename (fs : FileSystem) (old new : Path) : Except SystemError FileSystem := do
  let source ← fs.slotOf old
  let target ← fs.slotOf new
  if !source.isNamed || !target.isNamed then throw .busy
  else
    let l := source.location
    let goal := target.location
    match fs.entry? l with
    | none => throw .notFound
    | some e =>
      let moved := ((fs.cut goal).relocate l goal)
      if e != .directory && (source.slashed || target.slashed) then throw .notDirectory
      else if l.isPrefixOf target.directory then throw .invalidArgument
      else if goal.isPrefixOf source.directory then throw .directoryNotEmpty
      else if l == goal then return fs
      else
        match fs.entry? goal with
        | none => return moved
        | some .directory =>
          if e != .directory then throw .isDirectory
          else if (fs.below goal).isEmpty then return moved
          else throw .directoryNotEmpty
        | some _ => if e == .directory then throw .notDirectory else return moved

/-! ### Several changes -/

/-- Where the system stops to write a file: after how many bytes, and why. -/
structure Stop where
  after : Nat
  reason : SystemError
  deriving Repr, DecidableEq

namespace Action

/-- A single change as a step. -/
def change {ε : Type} (f : FileSystem → Except ε FileSystem) : Action ε Unit := fun fs =>
  match f fs with
  | .ok fs' => .ok () fs'
  | .error e => .error e fs

/-- A question as a step. -/
def ask {ε α : Type} (f : FileSystem → Except ε α) : Action ε α := fun fs =>
  match f fs with
  | .ok a => .ok a fs
  | .error e => .error e fs

/-- Makes the directory of a path, if it is not there, where `above` lists the paths of the directories
above it, the nearest first. A directory above is made if the one below it cannot be for the lack of
it. -/
def makeDirectoryIn : (above : List Path) → Path → Action SystemError Unit
  | above, p => do
    if p.isEmpty then return ()
    else
      try change (makeDirectory · p)
      catch e =>
        if e == .notFound then
          match above with
          | [] => throw e
          | parent :: rest =>
            makeDirectoryIn rest parent
            try change (makeDirectory · p)
            catch e => if (← get).isDirectory p then return () else throw e
        else if (← get).isDirectory p then return ()
        else throw e

/-- Makes the directory of a path and those above it, as far as they are not there. -/
def makeDirectories (p : Path) : Action SystemError Unit := makeDirectoryIn p.parents p

/-- Gives a file a text. If the system stops midway, the file is left with the first bytes of the text. -/
def fill (stop : Option Stop) (p : Path) (text : String) : Action SystemError Unit :=
  match stop with
  | none => change (writeText · p text)
  | some stop => do
    change (writeBytes · p ((Bytes.ofString text).take stop.after))
    throw stop.reason

/-- Copies the content of a file. The target is emptied before the source is read. -/
def copy (source target : Path) : Action SystemError Unit := do
  let _ ← ask (readBytes · source)
  change (writeBytes · target [])
  let content ← ask (readBytes · source)
  change (writeBytes · target content)

end Action

end FileSystem

end SchemaHistory
