import SchemaHistory.Proofs.Redundancy.Resolved

/-!
Reconciling before or after the passes that filter.

A policy looks at the text of one statement, so that it makes no difference whether other statements have
been taken out before. Resolving looks for what undoes a statement, which may have been taken out: what
is resolved after a reconciliation can have fewer filtered statements, but has no others.
-/

namespace SchemaHistory

namespace History

variable {h : History} {sql : String}

/-! ### A reconciliation of marked statements -/

/-- A reconciliation looks at no reasons: those that are given before it stay on what it leaves. -/
theorem statements_reconcile_of_marked {marked : History} {given : Statement → Option FilterReason}
    (as : marked.statements = h.statements.map fun s => s.orMark (given s)) :
    (marked.reconcile sql).history.statements =
      (h.reconcile sql).history.statements.map fun s => s.orMark (given s) := by
  rw [statements_reconcile, statements_reconcile, as, List.filter_map]
  rfl

/-- Marking statements does not change how many of them a reconciliation takes out. -/
theorem removed_reconcile_of_marked {marked : History} {given : Statement → Option FilterReason}
    (as : marked.statements = h.statements.map fun s => s.orMark (given s)) :
    (marked.reconcile sql).removed = (h.reconcile sql).removed := by
  have before : marked.size = h.size := by
    rw [size, size, as, List.length_map]
  have behind : (marked.reconcile sql).history.size = (h.reconcile sql).history.size := by
    rw [size, size, statements_reconcile_of_marked as, List.length_map]
  have total := h.removed_add_size_reconcile sql
  have total' := marked.removed_add_size_reconcile sql
  omega

/-! ### Policies -/

/-- Filtering by a policy and reconciling can be interchanged. -/
theorem applyPolicy_reconcile (h : History) (p : Policy) (sql : String) :
    (h.reconcile sql).history.applyPolicy p = ((h.applyPolicy p).reconcile sql).history := by
  apply eq_of_statements
  rw [statements_applyPolicy, statements_reconcile_of_marked (h.statements_applyPolicy p)]

/-! ### Resolving -/

theorem ascending_reconcile (ascending : h.Ascending) : (h.reconcile sql).history.Ascending :=
  ascending.sublist (h.reconcile_sublist sql)

section Pairing

variable {α : Type} {pairing : Redundancy.Pairing α} {s : Statement}

/-- What undoes something after a reconciliation did so before. -/
theorem undoes_of_undoes_reconcile {target : α} {q : Nat}
    (undoes : pairing.Undoes (h.reconcile sql).history target q) : pairing.Undoes h target q := by
  obtain ⟨t, member, undone⟩ := undoes
  exact ⟨t, (h.reconcile_sublist sql).subset member, undone⟩

/-- A pass that has no reason for a statement has none after a reconciliation. -/
theorem reasonFor?_reconcile [BEq α] [LawfulBEq α] (ascending : h.Ascending)
    (nothing : pairing.reasonFor? h s = none) :
    pairing.reasonFor? (h.reconcile sql).history s = none := by
  rw [Redundancy.Pairing.reasonFor?_eq_none_iff ascending] at nothing
  rw [Redundancy.Pairing.reasonFor?_eq_none_iff (ascending_reconcile ascending)]
  rintro ⟨target, q, made, later, undoes⟩
  exact nothing ⟨target, q, made, later, undoes_of_undoes_reconcile undoes⟩

end Pairing

end History

/-- A statement that is the same as another, but for a reason that it may lack or another reason. -/
structure FilteredAtMost (s t : Statement) : Prop where
  text : s.text = t.text
  source : s.source = t.source
  position : s.position = t.position
  filtered : s.isFiltered = true → t.isFiltered = true

/-- Reasons of a smaller history filter a statement only where those of the larger one do. -/
theorem filteredAtMost_orMark {s : Statement} {fewer more : Option FilterReason}
    (nothing : more = none → fewer = none) : FilteredAtMost (s.orMark fewer) (s.orMark more) where
  text := rfl
  source := rfl
  position := rfl
  filtered marked := by
    cases had : s.filter with
    | some reason => rwa [Statement.orMark_of_some had] at marked ⊢
    | none =>
      rw [Statement.isFiltered_orMark_of_none had] at marked ⊢
      rw [Option.isSome_iff_ne_none] at marked ⊢
      exact fun missing => marked (nothing missing)

/-- Resolving after a reconciliation filters at most what resolving before it does. -/
theorem resolve_reconcile_filteredAtMost (h : History) (sql : String) (ascending : h.Ascending) :
    List.Forall₂ FilteredAtMost (h.reconcile sql).history.resolve.statements
      (h.resolve.reconcile sql).history.statements := by
  rw [History.statements_resolve, History.statements_reconcile_of_marked h.statements_resolve,
    List.forall₂_map_left_iff, List.forall₂_map_right_iff, List.forall₂_same]
  intro s _
  refine filteredAtMost_orMark fun nothing => ?_
  rw [Redundancy.reasonFor?_eq_none_iff] at nothing ⊢
  exact ⟨History.reasonFor?_reconcile ascending nothing.1,
    History.reasonFor?_reconcile ascending nothing.2⟩

/-- A history in which a migration can regenerate the one statement that undoes another. -/
def droppedForGood : History :=
  ⟨[.unfiltered "CREATE TABLE a (id INT)" "init" 0,
    ⟨"INSERT INTO a VALUES (1)", "init", 2, some (.policy "seed" "Seed data")⟩,
    .unfiltered "ALTER TABLE b ADD CONSTRAINT c CHECK (x > 0)" "checks" 3,
    .unfiltered "DROP TABLE a" "clean" 3,
    .unfiltered "ALTER TABLE b DROP CONSTRAINT c" "clean" 7]⟩

/-- A policy and a reconciliation can be interchanged, with the same outcome and as many statements taken
out. Where the positions ascend, a reconciliation before resolving leaves the same statements as one
after it, as they were read and in their order, and each that is filtered in the first case is filtered
in the second; there are cases in which some are not filtered in the first but are in the second. -/
theorem passes_interchanged :
    (∀ (p : Policy) (sql : String) (h : History),
      (h.reconcile sql).history.applyPolicy p = ((h.applyPolicy p).reconcile sql).history ∧
        (h.reconcile sql).removed = ((h.applyPolicy p).reconcile sql).removed) ∧
    (∀ (sql : String) (h : History), h.Ascending →
      List.Forall₂ FilteredAtMost (h.reconcile sql).history.resolve.statements
        (h.resolve.reconcile sql).history.statements) ∧
    ∃ (sql : String) (h : History), h.Ascending ∧
      (h.reconcile sql).history.resolve.filteredCount <
        (h.resolve.reconcile sql).history.filteredCount := by
  refine ⟨fun p sql h => ?_, fun sql h => resolve_reconcile_filteredAtMost h sql, ?_⟩
  · exact ⟨h.applyPolicy_reconcile p sql,
      (History.removed_reconcile_of_marked (h.statements_applyPolicy p)).symm⟩
  · exact ⟨"drop table A", droppedForGood, by decide, by decide +kernel⟩

theorem passes_interchanged_droppedForGood :
    droppedForGood.Ascending ∧
      List.Forall₂ FilteredAtMost (droppedForGood.reconcile "drop table A").history.resolve.statements
        (droppedForGood.resolve.reconcile "drop table A").history.statements :=
  have ascending : droppedForGood.Ascending := by decide
  ⟨ascending, passes_interchanged.2.1 "drop table A" droppedForGood ascending⟩

end SchemaHistory
