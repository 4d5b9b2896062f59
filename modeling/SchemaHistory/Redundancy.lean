import SchemaHistory.History.Basic

/-!
Statements that a later one undoes.

The creation of an object is redundant when a statement at a greater position drops an object of the
same kind and name, and so is an added constraint when a later statement drops the constraint of the
same table and name. Statements that are filtered already take no part on either side, and all of them
are looked at before any is marked: a statement that is itself made redundant still makes others so.
The statement that undoes another is not marked for it. Of several that do, the nearest is cited.
-/

namespace SchemaHistory

namespace Redundancy

/-- Halves the window of `size` positions from `base` on, keeping the half that starts at the last
looked-at position which is not greater than `p`, until one position is left. -/
def narrow (positions : Array Nat) (p base size : Nat) : Nat :=
  if size ≤ 1 then base
  else
    let middle := base + size / 2
    narrow positions p (if positions.getD middle 0 ≤ p then middle else base) (size - size / 2)
termination_by size

/-- The first of a list of ascending positions that is greater than `p`, found by halving. -/
def nextAfter (positions : List Nat) (p : Nat) : Option Nat :=
  let found := positions.toArray
  let base := narrow found p 0 found.size
  found[if found.getD base 0 ≤ p then base + 1 else base]?

/-- Two forms of statement of which the later one undoes the earlier: what makes a thing, what undoes it,
and the reason that is recorded for the maker. -/
structure Pairing (α : Type) where
  made? : String → Option α
  undone? : String → Option α
  reason : α → Nat → FilterReason

/-- Creating an object and dropping it. -/
def objects : Pairing ObjectRef :=
  ⟨Sql.created?, Sql.dropped?, fun object position =>
    .createDropped object.kind object.name position⟩

/-- Adding a constraint and dropping it. -/
def constraints : Pairing ConstraintRef :=
  ⟨Sql.constraintAdded?, Sql.constraintDropped?, fun constraint position =>
    .constraintDropped constraint.table constraint.name position⟩

namespace Pairing

variable {α : Type} [BEq α]

/-- The unfiltered statements of a history that make something: the index of each in the list, and what
it makes. -/
def makers (pairing : Pairing α) (h : History) : List (Nat × α) :=
  h.statements.zipIdx.filterMap fun (s, index) =>
    if s.isFiltered then none else (pairing.made? s.text).map fun target => (index, target)

/-- What the unfiltered statements of a history undo, with their positions, in order. -/
def undoers (pairing : Pairing α) (h : History) : List (α × Nat) :=
  h.kept.filterMap fun s => (pairing.undone? s.text).map fun target => (target, s.position)

/-- The nearest position after `p` at which `target` is undone. -/
def undoneAt (found : List (α × Nat)) (target : α) (p : Nat) : Option Nat :=
  nextAfter ((found.filter (·.1 == target)).map (·.2)) p

/-- Marks the statement at the index of a maker if what it makes is undone after its position. -/
def markMaker (pairing : Pairing α) (found : List (α × Nat)) (h : History) (maker : Nat × α) :
    History :=
  match h.statements[maker.1]?.bind fun s => undoneAt found maker.2 s.position with
  | some position => h.markAt maker.1 (pairing.reason maker.2 position)
  | none => h

/-- Marks in `h` the makers that stand unfiltered in `seen`, an earlier state of the same statements,
where what they make is undone in `seen`. -/
def mark (pairing : Pairing α) (seen h : History) : History :=
  (pairing.makers seen).foldl (pairing.markMaker (pairing.undoers seen)) h

end Pairing

end Redundancy

/-- Marks every unfiltered statement that a later unfiltered statement undoes: the objects first, then
the constraints, so that an object decides where a statement creates one and adds a constraint. -/
def History.resolve (h : History) : History :=
  Redundancy.constraints.mark h (Redundancy.objects.mark h h)

end SchemaHistory
