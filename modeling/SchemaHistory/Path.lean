import SchemaHistory.Text.Blank
import SchemaHistory.Text.Bytes

/-!
Paths.

A path is a string of bytes. Slashes cut it into segments; a path that starts with a slash is absolute.
Repeated slashes, slashes at the end and points behind the first segment have no meaning for the parts of
a path, so they are passed over; two points are a part like any other.
-/

namespace SchemaHistory

/-- A path. -/
structure Path where
  bytes : Bytes
  deriving Repr, DecidableEq, Inhabited

namespace Path

/-- The byte that separates segments. -/
def slash : UInt8 := 0x2F

/-- The segment that stays in a directory. -/
def here : Bytes := [0x2E]

/-- The segment that leads to the directory above. -/
def above : Bytes := [0x2E, 0x2E]

/-- The path that a text names. -/
def ofString (s : String) : Path := ⟨.ofString s⟩

/-- The path as it is shown. -/
def text (p : Path) : String := Bytes.shown p.bytes

/-- Whether the path has no bytes. -/
def isEmpty (p : Path) : Bool := p.bytes.isEmpty

/-- Whether the path starts at the root. -/
def isAbsolute (p : Path) : Bool := p.bytes.head? == some slash

/-- Whether the path ends in a slash. -/
def endsInSlash (p : Path) : Bool := p.bytes.getLast? == some slash

/-- The path of a name in a directory. An absolute name is the path itself. -/
def join (p name : Path) : Path :=
  if name.isAbsolute || p.isEmpty then name
  else if p.endsInSlash then ⟨p.bytes ++ name.bytes⟩
  else ⟨p.bytes ++ slash :: name.bytes⟩

/-- What stands between the slashes. -/
def segments (p : Path) : List Bytes := pieces (· == slash) p.bytes

/-- The path with these segments. -/
def ofSegments (l : List Bytes) : Path := ⟨List.intercalate [slash] l⟩

/-- Whether a segment behind the first one has no meaning. -/
def isTrivial (segment : Bytes) : Bool := segment.isEmpty || segment == here

/-- Drops the segments without a meaning at the end of a list. -/
def dropTrivialEnd (l : List Bytes) : List Bytes := (l.reverse.dropWhile isTrivial).reverse

/-- The path without its last part. There is none for the root and for the empty path. -/
def parent? (p : Path) : Option Path :=
  match p.segments with
  | [] => none
  | first :: rest =>
    match (dropTrivialEnd rest).reverse with
    | _ :: before =>
      match dropTrivialEnd before.reverse with
      | [] => some (if first.isEmpty then ⟨[slash]⟩ else ⟨first⟩)
      | kept => some (ofSegments (first :: kept))
    | [] => if first.isEmpty then none else some ⟨[]⟩

/-- The path without its last part, without its last two parts and so on, at most `fuel` times. -/
def parentsWithin : (fuel : Nat) → Path → List Path
  | 0, _ => []
  | fuel + 1, p =>
    match p.parent? with
    | some parent => parent :: parentsWithin fuel parent
    | none => []

/-- The paths that are left when parts are taken from the end of a path, the longest first. -/
def parents (p : Path) : List Path := p.parentsWithin p.bytes.length

/-- The last part, if it is a name. -/
def fileName? (p : Path) : Option Bytes :=
  let last := match p.segments with
    | [] => []
    | first :: rest =>
      match (dropTrivialEnd rest).reverse with
      | last :: _ => last
      | [] => first
  if isTrivial last || last == above then none else some last

/-- The path with another name in place of the last part, or with the name added if that is no name. -/
def withFileName (p : Path) (name : Bytes) : Path :=
  match p.fileName? with
  | some _ => (p.parent?.getD p).join ⟨name⟩
  | none => p.join ⟨name⟩

end Path

end SchemaHistory
