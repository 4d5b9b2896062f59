import SchemaHistory.Proofs.Marking
import SchemaHistory.Proofs.Script.Junction

/-!
Reconciling with several migrations.

A reconciliation takes out what its migration regenerates and leaves the rest as it is, so that after any
number of them those statements are left that none of the migrations regenerates. It does not matter in
which order they come, how often one of them comes, or whether two come as one.
-/

namespace SchemaHistory

instance (sql text : String) : Decidable (Sql.Regenerates sql text) :=
  inferInstanceAs (Decidable (∃ t ∈ Sql.statements sql, Sql.normal t = Sql.normal text))

namespace Sql

variable {a : String}

/-- Joined scripts regenerate what one of them does. -/
theorem regenerates_append_junction_iff (closed : BlocksClosed a.toList) (b text : String) :
    Regenerates (a ++ "\n;\n" ++ b) text ↔ Regenerates a text ∨ Regenerates b text := by
  simp only [Regenerates, statements_append_junction closed, List.mem_append, or_and_right, exists_or]

end Sql

namespace History

/-- A reconciliation leaves the statements that its migration does not regenerate. -/
theorem statements_reconcile_eq_filter (h : History) (sql : String) :
    (h.reconcile sql).history.statements =
      h.statements.filter fun s => ¬ Sql.Regenerates sql s.text := by
  rw [statements_reconcile]
  refine List.filter_congr fun s _ => ?_
  rw [Bool.eq_iff_iff, decide_eq_true_iff, ← Sql.contains_normalForms_iff]
  simp

/-! ### One migration after the other -/

/-- Reconciles with some migrations, one after the other. -/
def reconcileAll (h : History) (sqls : List String) : History :=
  sqls.foldl (fun h sql => (h.reconcile sql).history) h

/-- What is left is what none of the migrations regenerates. -/
theorem statements_reconcileAll (h : History) (sqls : List String) :
    (h.reconcileAll sqls).statements =
      h.statements.filter fun s => ∀ sql ∈ sqls, ¬ Sql.Regenerates sql s.text := by
  induction sqls generalizing h with
  | nil => simp [reconcileAll]
  | cons sql sqls ih =>
    rw [reconcileAll, List.foldl_cons, ← reconcileAll, ih, statements_reconcile_eq_filter,
      List.filter_filter]
    refine List.filter_congr fun s _ => ?_
    simp [Bool.and_comm]

/-- Migrations that together regenerate the same statements leave the same history, in whatever order and
however often they come. -/
theorem reconcileAll_congr (h : History) (sqls sqls' : List String)
    (same : ∀ text, (∃ sql ∈ sqls, Sql.Regenerates sql text) ↔
      ∃ sql ∈ sqls', Sql.Regenerates sql text) : h.reconcileAll sqls = h.reconcileAll sqls' := by
  apply eq_of_statements
  rw [statements_reconcileAll, statements_reconcileAll]
  refine List.filter_congr fun s _ => ?_
  rw [decide_eq_decide]
  simpa using not_congr (same s.text)

/-- To reconcile with a migration again changes nothing. -/
theorem reconcile_reconcileAll_of_mem (h : History) (sqls : List String) {sql : String}
    (member : sql ∈ sqls) : ((h.reconcileAll sqls).reconcile sql).history = h.reconcileAll sqls := by
  have onward : h.reconcileAll (sqls ++ [sql]) = ((h.reconcileAll sqls).reconcile sql).history := by
    rw [reconcileAll, List.foldl_append]
    rfl
  rw [← onward]
  refine h.reconcileAll_congr _ _ fun text => ?_
  constructor
  · rintro ⟨sql', inside, regenerates⟩
    rcases List.mem_append.1 inside with before | last
    · exact ⟨sql', before, regenerates⟩
    · rw [List.mem_singleton.1 last] at regenerates
      exact ⟨sql, member, regenerates⟩
  · rintro ⟨sql', inside, regenerates⟩
    exact ⟨sql', List.mem_append_left _ inside, regenerates⟩

/-! ### Counting -/

/-- Nothing is removed where the history stays as it was. -/
theorem removed_eq_zero {h : History} {sql : String} (same : (h.reconcile sql).history = h) :
    (h.reconcile sql).removed = 0 := by
  have total := h.removed_add_size_reconcile sql
  rw [same] at total
  omega

/-- What is removed in two steps and what is left in the end are all that there was. -/
theorem removed_add_removed_add_size (h : History) (a b : String) :
    (h.reconcile a).removed + ((h.reconcile a).history.reconcile b).removed +
      ((h.reconcile a).history.reconcile b).history.size = h.size := by
  rw [Nat.add_assoc, removed_add_size_reconcile, removed_add_size_reconcile]

end History

/-- Reconciling with two migrations leaves the statements that neither of them regenerates, as they were and
in their order. Which of the two comes first makes no difference, nor does it if they come as one, with a
terminator on a line of its own between them; the statements that are removed add up; and to reconcile
with one of them again removes nothing. -/
theorem reconcile_action (h : History) (a b : String) (closed : Sql.BlocksClosed a.toList)
    (closed' : Sql.BlocksClosed b.toList) :
    let first := h.reconcile a
    let second := first.history.reconcile b
    let first' := h.reconcile b
    let second' := first'.history.reconcile a
    let once := h.reconcile (a ++ "\n;\n" ++ b)
    let once' := h.reconcile (b ++ "\n;\n" ++ a)
    second.history.statements =
        h.statements.filter (fun s => ¬ Sql.Regenerates a s.text ∧ ¬ Sql.Regenerates b s.text) ∧
      second'.history = second.history ∧ once.history = second.history ∧
      once'.history = second.history ∧
      first.removed + second.removed = once.removed ∧
      first'.removed + second'.removed = once.removed ∧ once'.removed = once.removed ∧
      ∀ later ∈ [first, second, second', once, once'],
        (later.history.reconcile a).history = later.history ∧
          (later.history.reconcile a).removed = 0 := by
  intro first second first' second' once once'
  have joined := Sql.regenerates_append_junction_iff closed b
  have joined' := Sql.regenerates_append_junction_iff closed' a
  have swapped : second'.history = second.history :=
    h.reconcileAll_congr [b, a] [a, b] (by simp [or_comm])
  have asOne : once.history = second.history :=
    h.reconcileAll_congr [a ++ "\n;\n" ++ b] [a, b] (by simp [joined])
  have asOne' : once'.history = second.history :=
    h.reconcileAll_congr [b ++ "\n;\n" ++ a] [a, b] (by simp [joined', or_comm])
  have total : first.removed + second.removed + second.history.size = h.size :=
    h.removed_add_removed_add_size a b
  have total' : first'.removed + second'.removed + second'.history.size = h.size :=
    h.removed_add_removed_add_size b a
  have totalOnce : once.removed + once.history.size = h.size := h.removed_add_size_reconcile _
  have totalOnce' : once'.removed + once'.history.size = h.size := h.removed_add_size_reconcile _
  rw [swapped] at total'
  rw [asOne] at totalOnce
  rw [asOne'] at totalOnce'
  refine ⟨?_, swapped, asOne, asOne', by omega, by omega, by omega, ?_⟩
  · have left : second.history.statements = _ := h.statements_reconcileAll [a, b]
    simpa using left
  · have again : (first.history.reconcile a).history = first.history :=
      h.reconcile_reconcileAll_of_mem [a] (by simp)
    have again' : (second.history.reconcile a).history = second.history :=
      h.reconcile_reconcileAll_of_mem [a, b] (by simp)
    have settled : ∀ k : History, k = second.history →
        (k.reconcile a).history = k ∧ (k.reconcile a).removed = 0 := by
      rintro k rfl
      exact ⟨again', History.removed_eq_zero again'⟩
    simp only [List.forall_mem_cons, List.not_mem_nil, false_implies, implies_true, and_true]
    exact ⟨⟨again, History.removed_eq_zero again⟩, settled _ rfl, settled _ swapped, settled _ asOne,
      settled _ asOne'⟩

/-- A history with a statement that stands there twice, once filtered, and gaps between the positions. -/
def repeated : History :=
  ⟨[.unfiltered "CREATE  TABLE a (id INT)" "m1" 0, .unfiltered "INSERT INTO a VALUES (1)" "m1" 2,
    ⟨"create table A\n(id int)", "m2", 5, some (.policy "noise" "Noise")⟩,
    .unfiltered "DROP VIEW v" "m2" 6, .unfiltered "SELECT 1" "m3" 9]⟩

theorem reconcile_action_repeated :
    let a := "drop view V; -- gone;\nCREATE TABLE a (id INT)"
    let b := "SELECT/* one */ 1; DROP VIEW v; DROP VIEW v"
    Sql.BlocksClosed a.toList ∧ Sql.BlocksClosed b.toList ∧
      ((repeated.reconcile b).history.reconcile a).history =
        ((repeated.reconcile a).history.reconcile b).history ∧
      (repeated.reconcile a).removed + ((repeated.reconcile a).history.reconcile b).removed =
        (repeated.reconcile (a ++ "\n;\n" ++ b)).removed := by
  intro a b
  have closed : Sql.BlocksClosed a.toList := .plain (by decide)
  have closed' : Sql.BlocksClosed "SELECT/* one */ 1; DROP VIEW v; DROP VIEW v".toList :=
    @Sql.BlocksClosed.comment "SELECT".toList " one ".toList " 1; DROP VIEW v; DROP VIEW v".toList
      (by decide) (by decide) (.plain (by decide))
  have holds := reconcile_action repeated a b closed closed'
  exact ⟨closed, closed', holds.2.1, holds.2.2.2.2.1⟩

end SchemaHistory
