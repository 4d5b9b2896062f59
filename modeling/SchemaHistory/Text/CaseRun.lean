/-!
Case mappings as runs of code points.

Most letters map to another one at a fixed distance, and neighbouring letters at the same distance;
alphabets that alternate capital and small letters do so at every second code point. A mapping is a
list of such runs, ascending by first code point.
-/

namespace SchemaHistory

/-- The code points `first`, `first + stride`, … up to `last`, mapped to those from `image` on at the
same distances. -/
structure CaseRun where
  first : Nat
  last : Nat
  stride : Nat
  image : Nat
  deriving Repr, DecidableEq

namespace CaseRun

/-- Where the run sends a code point, if it is one of the run. -/
def imageOf? (r : CaseRun) (n : Nat) : Option Nat :=
  if r.first ≤ n && n ≤ r.last && (n - r.first) % r.stride == 0 then some (r.image + (n - r.first))
  else none

/-- The code point that the run sends to `m`, if there is one. -/
def preimage? (r : CaseRun) (m : Nat) : Option Nat :=
  let n := r.first + (m - r.image)
  if r.image ≤ m && n ≤ r.last && (n - r.first) % r.stride == 0 then some n else none

/-- Where an ascending list of runs sends a code point, if one of them holds it. -/
def find? : List CaseRun → Nat → Option Nat
  | [], _ => none
  | r :: rest, n =>
    if n < r.first then none
    else match r.imageOf? n with
      | some m => some m
      | none => find? rest n

/-- Every code point that a list of runs sends to `m`. -/
def preimages (runs : List CaseRun) (m : Nat) : List Nat := runs.filterMap (·.preimage? m)

/-- The code points of a run. -/
def domain (r : CaseRun) : List (Nat × Nat) :=
  if r.stride == 1 then [(r.first, r.last)]
  else (List.range ((r.last - r.first) / r.stride + 1)).map fun i =>
    (r.first + i * r.stride, r.first + i * r.stride)

end CaseRun

end SchemaHistory
