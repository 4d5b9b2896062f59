/-!
Sets of characters, held as ranges of code points.

A set is a list of closed ranges. `ofRanges` puts any list of ranges into ascending order and joins
those that touch, so that `complement` can read the gaps between neighbours off the list; the other
set operations are built from the two. Large sets are written as `ofGaps` or `ofText`: how many code
points to skip, how many to take, and so on in turn.
-/

namespace SchemaHistory

/-- A set of characters, as closed ranges of code points. -/
structure CharSet where
  ranges : List (Nat × Nat)
  deriving Repr, DecidableEq, Inhabited

namespace CharSet

/-- The largest code point. -/
def lastCode : Nat := 0x10FFFF

/-- Membership of a code point. -/
def containsCode (s : CharSet) (n : Nat) : Bool :=
  s.ranges.any fun r => r.1 ≤ n && n ≤ r.2

/-- Membership of a character. -/
def contains (s : CharSet) (c : Char) : Bool := s.containsCode c.toNat

/-- The set without characters. -/
def empty : CharSet := ⟨[]⟩

/-- The set of all characters. -/
def all : CharSet := ⟨[(0, lastCode)]⟩

/-- The set of one character. -/
def single (c : Char) : CharSet := ⟨[(c.toNat, c.toNat)]⟩

/-- The set of the characters between two, both included. -/
def range (lo hi : Char) : CharSet := ⟨[(lo.toNat, hi.toNat)]⟩

/-- Joins neighbouring ranges that overlap or touch; the list ascends by lower end. -/
def joinTouching : List (Nat × Nat) → List (Nat × Nat)
  | [] => []
  | [r] => [r]
  | (a, b) :: (c, d) :: rest =>
    if c ≤ b + 1 then joinTouching ((a, max b d) :: rest)
    else (a, b) :: joinTouching ((c, d) :: rest)
termination_by l => l.length

/-- The set of all code points that lie in one of the ranges, in normal form. -/
def ofRanges (l : List (Nat × Nat)) : CharSet :=
  ⟨joinTouching (l.mergeSort fun x y => x.1 ≤ y.1)⟩

/-- The characters that are in one set or the other. -/
def union (s t : CharSet) : CharSet := ofRanges (s.ranges ++ t.ranges)

/-- The union of a list of sets. -/
def unions (l : List CharSet) : CharSet := ofRanges (l.flatMap CharSet.ranges)

/-- The code points from `start` on that no range of an ascending list holds. -/
def gapsFrom (start : Nat) : List (Nat × Nat) → List (Nat × Nat)
  | [] => if start ≤ lastCode then [(start, lastCode)] else []
  | (a, b) :: rest =>
    if start < a then (start, a - 1) :: gapsFrom (b + 1) rest else gapsFrom (b + 1) rest

/-- Every character that is not in a set in normal form. -/
def complement (s : CharSet) : CharSet := ⟨gapsFrom 0 s.ranges⟩

/-- The characters that are in both sets. -/
def inter (s t : CharSet) : CharSet := (union s.complement t.complement).complement

/-- The characters of the first set that are not in the second. -/
def diff (s t : CharSet) : CharSet := inter s t.complement

/-- The characters that are in just one of two sets. -/
def symmDiff (s t : CharSet) : CharSet := union (diff s t) (diff t s)

/-- Reads alternate counts of code points to skip and to take, starting at `start`. -/
def rangesOfGaps (start : Nat) : List Nat → List (Nat × Nat)
  | skip :: take :: rest =>
    (start + skip, start + skip + take - 1) :: rangesOfGaps (start + skip + take) rest
  | _ => []

/-- The set written as alternate counts of code points to skip and to take. -/
def ofGaps (l : List Nat) : CharSet := ⟨rangesOfGaps 0 l⟩

/-- The value of a digit in base thirty-six. -/
def digitValue (c : Char) : Nat :=
  if c.toNat ≤ '9'.toNat then c.toNat - '0'.toNat else c.toNat - 'a'.toNat + 10

/-- Adds a character to the numbers read so far, which stand last one first behind the number that is
being read. -/
def readDigit : Option Nat × List Nat → Char → Option Nat × List Nat
  | (current, done), c =>
    if c == ' ' || c == '\n' then (none, current.toList ++ done)
    else (some (current.getD 0 * 36 + digitValue c), done)

/-- Reads numbers in base thirty-six, parted by blanks or line ends. -/
def numbers (text : String) : List Nat :=
  let (current, done) := text.toList.foldl readDigit (none, [])
  (current.toList ++ done).reverse

/-- The set written as `ofGaps` wants it, in base thirty-six. -/
def ofText (text : String) : CharSet := ofGaps (numbers text)

end CharSet

end SchemaHistory
