import SchemaHistory.Policy.Basic
import SchemaHistory.Reconciliation

/-!
What a pass over a history does to a single statement.

A pass that decides on reasons changes a statement in one way only: a statement without a reason may get
one. A reconciliation takes statements out and changes none. Under both a statement stays what it was
when it was read.
-/

namespace SchemaHistory

namespace Statement

/-- The statement with a reason recorded, if one is given and there was none before. -/
def orMark (s : Statement) (reason? : Option FilterReason) : Statement :=
  { s with filter := s.filter <|> reason? }

/-- The statement as it was read, without a reason. -/
def bare (s : Statement) : Statement := { s with filter := none }

@[simp] theorem text_bare (s : Statement) : s.bare.text = s.text := rfl

@[simp] theorem source_bare (s : Statement) : s.bare.source = s.source := rfl

@[simp] theorem position_bare (s : Statement) : s.bare.position = s.position := rfl

@[simp] theorem bare_orMark (s : Statement) (reason? : Option FilterReason) :
    (s.orMark reason?).bare = s.bare := rfl

@[simp] theorem text_orMark (s : Statement) (reason? : Option FilterReason) :
    (s.orMark reason?).text = s.text := rfl

@[simp] theorem source_orMark (s : Statement) (reason? : Option FilterReason) :
    (s.orMark reason?).source = s.source := rfl

@[simp] theorem position_orMark (s : Statement) (reason? : Option FilterReason) :
    (s.orMark reason?).position = s.position := rfl

theorem filter_orMark (s : Statement) (reason? : Option FilterReason) :
    (s.orMark reason?).filter = (s.filter <|> reason?) := rfl

theorem bare_of_none {s : Statement} (h : s.filter = none) : s.bare = s := by
  cases s with
  | mk text source position filter =>
    obtain rfl : filter = none := h
    rfl

/-- A reason that is there stays. -/
theorem filter_orMark_of_some {s : Statement} {reason : FilterReason} (h : s.filter = some reason)
    (reason? : Option FilterReason) : (s.orMark reason?).filter = some reason := by
  rw [filter_orMark, h]; rfl

theorem filter_orMark_of_none {s : Statement} (h : s.filter = none)
    (reason? : Option FilterReason) : (s.orMark reason?).filter = reason? := by
  rw [filter_orMark, h]; rfl

theorem filter_orMark_eq_none_iff {s : Statement} {reason? : Option FilterReason} :
    (s.orMark reason?).filter = none ↔ s.filter = none ∧ reason? = none := by
  rw [filter_orMark]
  cases s.filter <;> simp

theorem isFiltered_orMark_of_none {s : Statement} (h : s.filter = none)
    (reason? : Option FilterReason) : (s.orMark reason?).isFiltered = reason?.isSome := by
  rw [isFiltered, filter_orMark_of_none h]

@[simp] theorem orMark_none (s : Statement) : s.orMark none = s := by
  cases s with
  | mk text source position filter => cases filter <;> rfl

/-- A statement with a reason is not changed. -/
theorem orMark_of_some {s : Statement} {reason : FilterReason} (h : s.filter = some reason)
    (reason? : Option FilterReason) : s.orMark reason? = s := by
  cases s with
  | mk text source position filter =>
    obtain rfl : filter = some reason := h
    rfl

@[simp] theorem orMark_orMark (s : Statement) (first second : Option FilterReason) :
    (s.orMark first).orMark second = s.orMark (first <|> second) := by
  cases s with
  | mk text source position filter => cases filter <;> rfl

theorem mark_eq_orMark (s : Statement) (reason : FilterReason) :
    s.mark reason = s.orMark (some reason) := by
  cases s with
  | mk text source position filter => cases filter <;> rfl

theorem isFiltered_eq_false_iff {s : Statement} : s.isFiltered = false ↔ s.filter = none := by
  rw [isFiltered, Option.isSome_eq_false_iff, Option.isNone_iff_eq_none]

end Statement

namespace History

/-- A history is nothing but its statements. -/
theorem eq_of_statements {h h' : History} (same : h.statements = h'.statements) : h = h' :=
  congrArg History.mk same

/-- The policy is asked about every statement, and its answer counts where there is no reason yet. -/
theorem statements_applyPolicy (h : History) (p : Policy) :
    (h.applyPolicy p).statements = h.statements.map fun s => s.orMark (p.reasonFor s.text) := by
  refine List.map_congr_left fun s _ => ?_
  cases filtered : s.filter with
  | some reason =>
    rw [if_pos (by rw [Statement.isFiltered, filtered]; rfl), Statement.orMark_of_some filtered]
  | none =>
    rw [if_neg (by rw [Statement.isFiltered, filtered]; simp)]
    cases p.reasonFor s.text with
    | some reason => exact s.mark_eq_orMark reason
    | none => exact s.orMark_none.symm

end History

/-- Whether a migration contains a statement with the same normal form. -/
def Sql.Regenerates (sql : String) (text : String) : Prop :=
  ∃ t ∈ Sql.statements sql, Sql.normal t = Sql.normal text

theorem Sql.contains_normalForms_iff {sql text : String} :
    (Sql.normalForms sql).contains (Sql.normal text) = true ↔ Sql.Regenerates sql text := by
  rw [List.contains_iff_mem, Sql.normalForms, List.mem_eraseDups, List.mem_map, Sql.Regenerates]

namespace History

theorem statements_reconcile (h : History) (sql : String) :
    (h.reconcile sql).history.statements =
      h.statements.filter fun s => !(Sql.normalForms sql).contains (Sql.normal s.text) := rfl

/-- A reconciliation leaves the statements that the migration does not regenerate. -/
theorem mem_reconcile {h : History} {sql : String} {s : Statement} :
    s ∈ (h.reconcile sql).history.statements ↔
      s ∈ h.statements ∧ ¬ Sql.Regenerates sql s.text := by
  rw [statements_reconcile, List.mem_filter, ← Sql.contains_normalForms_iff]
  simp

/-- Reconciling takes statements out and changes none. -/
theorem reconcile_sublist (h : History) (sql : String) :
    (h.reconcile sql).history.statements.Sublist h.statements := by
  rw [statements_reconcile]
  exact List.filter_sublist

/-- What a reconciliation removes and what it leaves make up the history. -/
theorem removed_add_size_reconcile (h : History) (sql : String) :
    (h.reconcile sql).removed + (h.reconcile sql).history.size = h.size := by
  have fewer : (h.reconcile sql).history.size ≤ h.size := (h.reconcile_sublist sql).length_le
  exact Nat.sub_add_cancel fewer

end History

end SchemaHistory
