import Mathlib.Data.List.Basic
import SchemaHistory.Command.Reconcile
import SchemaHistory.Proofs.Redundancy.Pass
import SchemaHistory.Proofs.Tally

/-!
The totals of a run add up.

Some of the totals are taken before the reconciliation and some after it. What ties them together is that
the reconciliation takes statements out and changes none: every filtered statement that is left was
filtered before, for the same reason.
-/

namespace SchemaHistory

namespace History

/-- Every statement is either filtered or kept. -/
theorem length_filtered_add_length_kept (h : History) :
    h.filtered.length + h.kept.length = h.size :=
  (List.length_eq_length_filter_add Statement.isFiltered).symm

/-- Filtering a history keeps the number of its statements. -/
theorem size_ofFiltered (sources : List Source) (policy : Policy) :
    (ofFiltered sources policy).size = (ofSources sources).size := by
  simp only [size, ofFiltered, statements_resolve, statements_applyPolicy, List.length_map]

/-! ### Labels -/

/-- The labels that are counted, one for each filtered statement. -/
def reasonTexts (h : History) : List String := h.statements.filterMap fun s => s.filter.map (·.text)

theorem reasonCounts_eq (h : History) : h.reasonCounts = tally h.reasonTexts := rfl

theorem length_reasonTexts (h : History) : h.reasonTexts.length = h.filtered.length := by
  rw [reasonTexts, filtered]
  induction h.statements with
  | nil => rfl
  | cons s rest ih =>
    cases reason : s.filter with
    | none => simp [reason, Statement.isFiltered, ih]
    | some r => simp [reason, Statement.isFiltered, ih]

/-- The counts by reason sum to the number of filtered statements. -/
theorem sum_reasonCounts (h : History) :
    (h.reasonCounts.map (·.2)).sum = h.filtered.length := by
  rw [reasonCounts_eq, sum_tally, length_reasonTexts]

/-! ### What a reconciliation leaves -/

variable (h : History) (sql : String)

theorem filtered_reconcile_sublist :
    (h.reconcile sql).history.filtered.Sublist h.filtered :=
  (h.reconcile_sublist sql).filter _

theorem kept_reconcile_sublist : (h.reconcile sql).history.kept.Sublist h.kept :=
  (h.reconcile_sublist sql).filter _

theorem reasonTexts_reconcile_sublist :
    (h.reconcile sql).history.reasonTexts.Sublist h.reasonTexts :=
  (h.reconcile_sublist sql).filterMap _

end History

/-- The totals of a run account for every statement that was read, once: the total splits into what the
new migration contains, what is filtered and not in it, and what is missing from it; the counts by reason
split the two numbers of filtered statements; and the second of them has no label and no count that the
first one has not. -/
theorem totals_add_up (sources : List Source) (policy : Policy) (sql : String) :
    let outcome := (History.ofFiltered sources policy).outcomeAgainst sql
    let totals := outcome.summary
    totals.total = (History.ofSources sources).size ∧
    totals.filtered = (History.ofFiltered sources policy).filtered.length ∧
    totals.filteredRemaining = outcome.filtered.length ∧
    totals.missing = outcome.missing.length ∧
    totals.total = totals.reconciled + totals.filteredRemaining + totals.missing ∧
    totals.filteredRemaining ≤ totals.filtered ∧
    totals.filtered - totals.filteredRemaining ≤ totals.reconciled ∧
    (totals.filteredByReason.map (·.2)).sum = totals.filtered ∧
    (totals.remainingByReason.map (·.2)).sum = totals.filteredRemaining ∧
    ∀ label n, (label, n) ∈ totals.remainingByReason →
      ∃ m, (label, m) ∈ totals.filteredByReason ∧ n ≤ m := by
  intro outcome totals
  set h := History.ofFiltered sources policy
  have before : h.filtered.length + h.kept.length = h.size := h.length_filtered_add_length_kept
  have after := (h.reconcile sql).history.length_filtered_add_length_kept
  have removed := h.removed_add_size_reconcile sql
  have fewerFiltered := (h.filtered_reconcile_sublist sql).length_le
  have fewerKept := (h.kept_reconcile_sublist sql).length_le
  have total : totals.total = h.size := rfl
  have filtered : totals.filtered = h.filtered.length := rfl
  have reconciled : totals.reconciled = (h.reconcile sql).removed := rfl
  have remaining : totals.filteredRemaining = (h.reconcile sql).history.filtered.length := rfl
  have missing : totals.missing = (h.reconcile sql).history.kept.length := rfl
  refine ⟨History.size_ofFiltered sources policy, rfl, rfl, rfl, by omega, by omega, by omega,
    h.sum_reasonCounts, (h.reconcile sql).history.sum_reasonCounts, fun label n entry => ?_⟩
  exact tally_le_of_sublist (h.reasonTexts_reconcile_sublist sql) entry

end SchemaHistory
