import Mathlib.Data.List.Forall2
import SchemaHistory.Proofs.Joining
import SchemaHistory.Proofs.Script.LineEnding

/-!
Migrations whose line endings are converted.

A carriage return before every line break changes no statement but in its spacing. Reconciliation looks at
normal forms alone: a converted migration regenerates what it did, and of a converted history the
statements at the same positions are removed.
-/

namespace SchemaHistory

/-- The migration with a carriage return before every line break. -/
def Source.returned (s : Source) : Source := { s with sql := Sql.returned s.sql }

/-- What is the same of statements that differ in their spacing and case alone, whatever the reasons. -/
def Statement.gist (s : Statement) : String × String × Nat := (Sql.normal s.text, s.source, s.position)

namespace History

variable {h h' : History}

/-- The positions of the statements, in order. -/
def positions (h : History) : List Nat := h.statements.map (·.position)

/-- The positions of the statements that a reconciliation with a migration takes out. -/
def removedPositions (h : History) (sql : String) : List Nat :=
  (h.statements.filter (· ∉ (h.reconcile sql).history.statements)).map (·.position)

/-- A reconciliation takes out the statements at the same positions of both histories, and leaves those at
the same. -/
structure ReconciledAlike (h h' : History) (sql : String) : Prop where
  positions : h'.positions = h.positions
  removedPositions : h'.removedPositions sql = h.removedPositions sql
  left : (h'.reconcile sql).history.positions = (h.reconcile sql).history.positions
  removed : (h'.reconcile sql).removed = (h.reconcile sql).removed

/-! ### Reconciliation sees the gist -/

theorem positions_eq (h : History) : h.positions = (h.statements.map Statement.gist).map (·.2.2) := by
  rw [positions, List.map_map]
  rfl

theorem map_gist_reconcile (h : History) (sql : String) :
    (h.reconcile sql).history.statements.map Statement.gist =
      (h.statements.map Statement.gist).filter fun g => !(Sql.normalForms sql).contains g.1 := by
  rw [statements_reconcile, List.filter_map]
  rfl

theorem removedPositions_eq (h : History) (sql : String) : h.removedPositions sql =
    ((h.statements.map Statement.gist).filter fun g => (Sql.normalForms sql).contains g.1).map (·.2.2) := by
  have taken : ∀ s ∈ h.statements, decide (s ∉ (h.reconcile sql).history.statements) =
      (Sql.normalForms sql).contains s.gist.1 := by
    intro s member
    rw [Bool.eq_iff_iff, decide_eq_true_iff, mem_reconcile, Statement.gist, Sql.contains_normalForms_iff]
    tauto
  rw [removedPositions, List.filter_congr taken, List.filter_map, List.map_map]
  rfl

theorem reconciledAlike (same : h'.statements.map Statement.gist = h.statements.map Statement.gist)
    (sql : String) : ReconciledAlike h h' sql := by
  have left : (h'.reconcile sql).history.statements.map Statement.gist =
      (h.reconcile sql).history.statements.map Statement.gist := by
    rw [map_gist_reconcile, same, map_gist_reconcile]
  have size : h'.size = h.size := by simpa [History.size] using congrArg List.length same
  have sizeLeft : (h'.reconcile sql).history.size = (h.reconcile sql).history.size := by
    simpa [History.size] using congrArg List.length left
  have total := h.removed_add_size_reconcile sql
  have total' := h'.removed_add_size_reconcile sql
  exact {
    positions := by rw [positions_eq, same, positions_eq]
    removedPositions := by rw [removedPositions_eq, same, removedPositions_eq]
    left := by rw [positions_eq, left, positions_eq]
    removed := by omega }

/-! ### Converted histories -/

/-- The forms of the statements that are read, each with the name of its source. -/
theorem map_normal_readTexts (sources : List Source) :
    (readTexts sources).map (fun read => (Sql.normal read.1, read.2)) =
      sources.flatMap fun s => ((Sql.statements s.sql).map Sql.normal).map fun form => (form, s.name) := by
  simp [readTexts, List.map_flatMap, Function.comp_def]

theorem map_gist_ofSources (sources : List Source) : (ofSources sources).statements.map Statement.gist =
    ((readTexts sources).map fun read => (Sql.normal read.1, read.2)).zipIdx.map fun ((form, name), place) =>
      (form, name, place) := by
  rw [statements_ofSources, List.zipIdx_map, List.map_map, List.map_map]
  rfl

/-- The statements of a converted history are those of the history, but for their spacing. -/
theorem map_gist_ofSources_returned (sources : List Source) :
    (ofSources (sources.map Source.returned)).statements.map Statement.gist =
      (ofSources sources).statements.map Statement.gist := by
  rw [map_gist_ofSources, map_normal_readTexts, List.flatMap_map, map_gist_ofSources, map_normal_readTexts]
  simp only [Source.returned, Sql.map_normal_statements_returned]

/-- Filtering records reasons, and changes nothing else. -/
theorem map_gist_ofFiltered (sources : List Source) (policy : Policy) :
    (ofFiltered sources policy).statements.map Statement.gist =
      (ofSources sources).statements.map Statement.gist := by
  rw [ofFiltered, statements_resolve, statements_applyPolicy, List.map_map, List.map_map]
  rfl

end History

/-- Line endings make no difference. If a carriage return is put before every line break of a script, it has
as many statements, and they are equivalent one by one. To reconcile any history with it leaves the same
history and the same counts. And if all migrations of a history are so converted, a reconciliation with
any script takes out the statements at the same positions, be the histories filtered by policies or not. -/
theorem line_endings_indifferent (sql : String) :
    (Sql.statements (Sql.returned sql)).length = (Sql.statements sql).length ∧
      List.Forall₂ (fun a b => Sql.equivalent a b = true) (Sql.statements sql)
        (Sql.statements (Sql.returned sql)) ∧
      (∀ h : History, h.reconcile (Sql.returned sql) = h.reconcile sql) ∧
      ∀ (sources : List Source) (policy policy' : Policy),
        History.ReconciledAlike (.ofSources sources) (.ofSources (sources.map Source.returned)) sql ∧
          History.ReconciledAlike (.ofFiltered sources policy)
            (.ofFiltered (sources.map Source.returned) policy') sql := by
  have forms := Sql.map_normal_statements_returned sql
  refine ⟨by simpa using congrArg List.length forms, ?_, fun h => ?_, fun sources policy policy' =>
    ⟨?_, ?_⟩⟩
  · have pairs : List.Forall₂ (· = ·) ((Sql.statements sql).map Sql.normal)
        ((Sql.statements (Sql.returned sql)).map Sql.normal) := by
      rw [forms, List.forall₂_eq_eq_eq]
    rw [List.forall₂_map_left_iff, List.forall₂_map_right_iff] at pairs
    exact pairs.imp fun a b same => beq_iff_eq.2 same
  · have found : Sql.normalForms (Sql.returned sql) = Sql.normalForms sql := congrArg List.eraseDups forms
    rw [History.reconcile, found]
    rfl
  · exact History.reconciledAlike (History.map_gist_ofSources_returned sources) sql
  · refine History.reconciledAlike ?_ sql
    rw [History.map_gist_ofFiltered, History.map_gist_ofSources_returned, History.map_gist_ofFiltered]

end SchemaHistory
