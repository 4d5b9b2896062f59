import SchemaHistory.History.Basic

/-!
The totals of a run, and the two lists that it reports.

The totals are taken at two moments: how many statements there are and how many are filtered before the
reconciliation, the rest after it.
-/

namespace SchemaHistory

/-- The totals of a run. -/
structure Summary where
  total : Nat
  filtered : Nat
  filteredByReason : List (String × Nat)
  reconciled : Nat
  filteredRemaining : Nat
  remainingByReason : List (String × Nat)
  missing : Nat
  deriving Repr, DecidableEq

/-- What a run reports: the filtered and the other statements that the new migration does not
contain, and the totals. -/
structure Outcome where
  filtered : List Statement
  missing : List Statement
  summary : Summary
  deriving Repr, DecidableEq

namespace Summary

/-- The totals before anything is counted. -/
def zero : Summary := ⟨0, 0, [], 0, 0, [], 0⟩

/-- The totals of a filtered history before the reconciliation. -/
def ofFiltered (h : History) : Summary :=
  { zero with
    total := h.size
    filtered := h.filteredCount
    filteredByReason := h.reasonCounts }

end Summary

/-- Parts a reconciled history into the two reported lists and completes the totals. -/
def History.outcome (h : History) (reconciled : Nat) (summary : Summary) : Outcome where
  filtered := h.filtered
  missing := h.kept
  summary :=
    { summary with
      reconciled := reconciled
      filteredRemaining := h.filtered.length
      remainingByReason := h.reasonCounts
      missing := h.kept.length }

end SchemaHistory
