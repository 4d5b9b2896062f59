import SchemaHistory.Pattern.Basic

/-!
How large a pattern is.

The size of a pattern is the memory that its states take in an automaton that reads a text byte by byte in
UTF-8. A counted repetition takes as many copies of its body, so that short patterns can be very large;
patterns above a limit are refused. A set beyond ASCII is laid out as the tree of its byte sequences,
each a list of byte ranges.

What every automaton has besides, a few states that start and end a match, is not counted. It takes less
than a thousand bytes, so that only of patterns this close to the limit it is not sure whether they are
refused.
-/

namespace SchemaHistory.Pattern

/-! ### Byte sequences -/

/-- The last code point of the first part, where a range has to be parted so that each part is one
sequence of byte ranges: where the number of bytes changes, and where a leading byte changes while the
bytes behind it do not run through all their values. -/
def splitPoint? (lo hi : Nat) : Option Nat :=
  match [0x7F, 0x7FF, 0xFFFF].find? fun last => lo ≤ last && last < hi with
  | some last => some last
  | none =>
    if hi ≤ 0x7F then none
    else [64, 4096, 262144].findSome? fun block =>
      if lo / block == hi / block then none
      else if lo % block != 0 then some (lo / block * block + block - 1)
      else if hi % block != block - 1 then some (hi / block * block - 1)
      else none

/-- The bytes of a code point. -/
def utf8Bytes (n : Nat) : List Nat :=
  if n < 0x80 then [n]
  else if n < 0x800 then [0xC0 + n / 64, 0x80 + n % 64]
  else if n < 0x10000 then [0xE0 + n / 4096, 0x80 + n / 64 % 64, 0x80 + n % 64]
  else [0xF0 + n / 262144, 0x80 + n / 4096 % 64, 0x80 + n / 64 % 64, 0x80 + n % 64]

/-- The byte sequences of a range of code points. -/
def byteSequences (lo hi : Nat) : List (List (Nat × Nat)) :=
  match splitPoint? lo hi with
  | some last =>
    if lo ≤ last ∧ last < hi then byteSequences lo last ++ byteSequences (last + 1) hi
    else [(utf8Bytes lo).zip (utf8Bytes hi)]
  | none => [(utf8Bytes lo).zip (utf8Bytes hi)]
termination_by hi - lo

/-- The ranges of a set without the surrogates. -/
def scalarRanges (s : CharSet) : List (Nat × Nat) :=
  (s.inter ⟨[(0, 0xD7FF), (0xE000, CharSet.lastCode)]⟩).ranges

/-- How many items two lists share at the start. -/
def sharedLength {α : Type} [BEq α] : List α → List α → Nat
  | a :: as, b :: bs => if a == b then sharedLength as bs + 1 else 0
  | _, _ => 0

/-- The number of nodes of the tree of a list of sequences. -/
def treeNodes : List (List (Nat × Nat)) → Nat
  | [] => 0
  | [l] => l.length
  | k :: l :: rest => k.length - sharedLength k l + treeNodes (l :: rest)

/-! ### Sizes -/

/-- The number of bytes that a state takes. -/
def stateSize : Nat := 32

/-- The number of bytes that an edge takes. -/
def edgeSize : Nat := 8

/-- The number of bytes that a branch takes. -/
def branchSize : Nat := 4

/-- The size of a set of characters. A single character is a chain of bytes. -/
def setSize (s : CharSet) : Nat :=
  match scalarRanges s with
  | [] => stateSize
  | [(lo, hi)] =>
    if lo == hi then stateSize * (utf8Bytes lo).length
    else if hi < 0x80 then 2 * stateSize + edgeSize
    else treeSize [(lo, hi)]
  | ranges =>
    if ranges.all fun r => r.2 < 0x80 then 2 * stateSize + edgeSize * ranges.length
    else treeSize ranges
where
  /-- The size of the tree of byte sequences of a list of ranges. -/
  treeSize (ranges : List (Nat × Nat)) : Nat :=
    let sequences := ranges.flatMap fun r => byteSequences r.1 r.2
    2 * stateSize + stateSize * treeNodes sequences + branchSize * sequences.length

/-- Whether a pattern matches nothing but the empty text. -/
def isWidthless : Pattern → Bool
  | empty => true
  | set _ => false
  | assertion _ => true
  | seq p q => isWidthless p && isWidthless q
  | either p q => isWidthless p && isWidthless q
  | captured p => isWidthless p
  | repeated p _ most => isWidthless p || most == some 0

/-- The size of a pattern. A repetition of a pattern without width is as good as a single one. -/
def size : Pattern → Nat
  | empty => stateSize
  | set s => setSize s
  | assertion _ => stateSize
  | seq p q => size p + size q
  | either p q => size p + size q + stateSize + 2 * branchSize
  | captured p => size p + 2 * stateSize
  | repeated p least most =>
    let fork := stateSize + 2 * branchSize
    let least := if isWidthless p then min least 1 else least
    match most with
    | none => max least 1 * size p + fork
    | some most =>
      let most := if isWidthless p then min most 1 else most
      if most == 0 then stateSize
      else least * size p + (most - least) * (size p + fork) + stateSize

/-- Patterns larger than this are refused. -/
def sizeLimit : Nat := 10 * 1024 * 1024

end SchemaHistory.Pattern
