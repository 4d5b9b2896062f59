import SchemaHistory.Command.Reconcile
import SchemaHistory.Proofs.Extraction
import SchemaHistory.Proofs.Redundancy.Resolved

/-!
What a run reports, said of the statements that were read.

The policy, the redundancy, the new migration and the parting into two lists each go by a rule of their
own. Together they come to this: a statement that the new migration does not contain is missing if no rule
of the policy filters it and nothing later that the policy leaves in undoes it, and otherwise it is
reported as filtered.
-/

namespace SchemaHistory

/-- A later statement undoes what a statement makes: it drops the object that the statement creates, or
the constraint that it adds. -/
def Statement.UndoneBy (s later : Statement) : Prop :=
  (∃ object, Sql.created? s.text = some object ∧ Sql.dropped? later.text = some object) ∨
  (∃ constraint, Sql.constraintAdded? s.text = some constraint ∧
    Sql.constraintDropped? later.text = some constraint)

namespace History

/-- Nothing in the history that the policy leaves in undoes the statement later. -/
def Lasts (full : History) (policy : Policy) (s : Statement) : Prop :=
  ∀ later ∈ full.statements, policy.evaluate later.text = none → s.position < later.position →
    ¬ s.UndoneBy later

variable {sources : List Source} {policy : Policy}

/-- Among the statements that were read, what the policy leaves in is what can undo another. -/
theorem undoes_applyPolicy_iff {α : Type} {pairing : Redundancy.Pairing α} {target : α} {q : Nat} :
    pairing.Undoes ((ofSources sources).applyPolicy policy) target q ↔
      ∃ later ∈ (ofSources sources).statements, policy.evaluate later.text = none ∧
        pairing.undone? later.text = some target ∧ later.position = q := by
  have left : ∀ s ∈ (ofSources sources).statements,
      ((s.orMark (policy.reasonFor s.text)).filter = none ↔ policy.evaluate s.text = none) := by
    intro s member
    rw [Statement.filter_orMark_of_none (filter_of_mem_ofSources member), Policy.reasonFor,
      Option.map_eq_none_iff]
  rw [Redundancy.Pairing.Undoes, statements_applyPolicy]
  constructor
  · rintro ⟨_, mapped, unfiltered, undone, position⟩
    obtain ⟨later, member, rfl⟩ := List.mem_map.1 mapped
    exact ⟨later, member, (left later member).1 unfiltered, undone, position⟩
  · rintro ⟨later, member, free, undone, position⟩
    exact ⟨_, List.mem_map_of_mem member, (left later member).2 free, undone, position⟩

theorem ascending_applyPolicy : ((ofSources sources).applyPolicy policy).Ascending := by
  rw [Ascending, statements_applyPolicy, List.pairwise_map]
  exact (positions_ofSources sources).imp fun less => Nat.le_of_lt less

theorem isUndone_applyPolicy_iff {α : Type} {pairing : Redundancy.Pairing α} {s : Statement} :
    pairing.IsUndone ((ofSources sources).applyPolicy policy) s ↔
      ∃ later ∈ (ofSources sources).statements, policy.evaluate later.text = none ∧
        s.position < later.position ∧
        ∃ target, pairing.made? s.text = some target ∧ pairing.undone? later.text = some target := by
  constructor
  · rintro ⟨target, _, made, less, undoes⟩
    obtain ⟨later, member, free, undone, rfl⟩ := undoes_applyPolicy_iff.1 undoes
    exact ⟨later, member, free, less, target, made, undone⟩
  · rintro ⟨later, member, free, less, target, made, undone⟩
    exact ⟨target, later.position, made, less,
      undoes_applyPolicy_iff.2 ⟨later, member, free, undone, rfl⟩⟩

/-- A statement lasts if neither its object nor its constraint is undone in what the policy leaves in. -/
theorem lasts_iff {s : Statement} :
    (ofSources sources).Lasts policy s ↔
      ¬ Redundancy.objects.IsUndone ((ofSources sources).applyPolicy policy) s ∧
      ¬ Redundancy.constraints.IsUndone ((ofSources sources).applyPolicy policy) s := by
  rw [isUndone_applyPolicy_iff, isUndone_applyPolicy_iff]
  constructor
  · intro lasts
    refine ⟨?_, ?_⟩ <;> rintro ⟨later, member, free, less, undone⟩
    · exact lasts later member free less (Or.inl undone)
    · exact lasts later member free less (Or.inr undone)
  · rintro ⟨object, constraint⟩ later member free less (undone | undone)
    · exact object ⟨later, member, free, less, undone⟩
    · exact constraint ⟨later, member, free, less, undone⟩

/-- The reason that a statement gets when its history is filtered, going by the statements as they were
read. -/
def verdict? (sources : List Source) (policy : Policy) (s : Statement) : Option FilterReason :=
  policy.reasonFor s.text <|>
    Redundancy.reasonFor? ((ofSources sources).applyPolicy policy) s

theorem verdict?_eq_none_iff {s : Statement} :
    verdict? sources policy s = none ↔
      policy.evaluate s.text = none ∧ (ofSources sources).Lasts policy s := by
  simp only [verdict?, Redundancy.reasonFor?, Option.orElse_apply, Option.orElse_eq_or,
    Option.or_eq_none_iff, Policy.reasonFor, Option.map_eq_none_iff, lasts_iff,
    Redundancy.Pairing.reasonFor?_eq_none_iff ascending_applyPolicy]

theorem statements_ofFiltered (sources : List Source) (policy : Policy) :
    (ofFiltered sources policy).statements =
      (ofSources sources).statements.map fun s => s.orMark (verdict? sources policy s) := by
  rw [ofFiltered, statements_resolve, statements_applyPolicy, List.map_map]
  exact List.map_congr_left fun s _ => Statement.orMark_orMark s _ _

/-! ### The two lists -/

/-- Of unfiltered statements that may be given a reason, those that are given none are left as they
were. -/
theorem filter_not_isFiltered_map_orMark {l : List Statement} (unfiltered : ∀ s ∈ l, s.filter = none)
    (reason? : Statement → Option FilterReason) :
    (l.map fun s => s.orMark (reason? s)).filter (!·.isFiltered) =
      l.filter fun s => (reason? s).isNone := by
  have given : ∀ s ∈ l, (!(s.orMark (reason? s)).isFiltered) = (reason? s).isNone := by
    intro s member
    rw [Statement.isFiltered_orMark_of_none (unfiltered s member), Option.not_isSome]
  have same : ∀ s ∈ l.filter fun s => (reason? s).isNone, s.orMark (reason? s) = id s := by
    intro s member
    rw [Option.isNone_iff_eq_none.1 (List.mem_filter.1 member).2, Statement.orMark_none, id]
  simp only [List.filter_map, Function.comp_def]
  rw [List.filter_congr given, List.map_congr_left same, List.map_id]

/-- Those that are given a reason are, as they were, the others. -/
theorem map_bare_filter_isFiltered_map_orMark {l : List Statement}
    (unfiltered : ∀ s ∈ l, s.filter = none) (reason? : Statement → Option FilterReason) :
    ((l.map fun s => s.orMark (reason? s)).filter (·.isFiltered)).map Statement.bare =
      l.filter fun s => (reason? s).isSome := by
  have given : ∀ s ∈ l, (s.orMark (reason? s)).isFiltered = (reason? s).isSome := fun s member =>
    Statement.isFiltered_orMark_of_none (unfiltered s member) _
  have same : ∀ s ∈ l.filter fun s => (reason? s).isSome,
      (s.orMark (reason? s)).bare = id s := fun s member =>
    Statement.bare_of_none (unfiltered s (List.mem_filter.1 member).1)
  simp only [List.filter_map, List.map_map, Function.comp_def]
  rw [List.filter_congr given, List.map_congr_left same, List.map_id]

variable (sources policy) (sql : String)

/-- What is left of the history that was read when it is reconciled before anything is filtered. -/
def unmatched : List Statement := ((ofSources sources).reconcile sql).history.statements

theorem unmatched_sublist : (unmatched sources sql).Sublist (ofSources sources).statements :=
  (ofSources sources).reconcile_sublist sql

theorem filter_of_mem_unmatched : ∀ s ∈ unmatched sources sql, s.filter = none := fun _ member =>
  filter_of_mem_ofSources ((unmatched_sublist sources sql).subset member)

/-- Filtering first and reconciling first leave the same statements, so that what is reported on is what
was read and is not regenerated, with its reasons. -/
theorem statements_reconcile_ofFiltered :
    ((ofFiltered sources policy).reconcile sql).history.statements =
      (unmatched sources sql).map fun s => s.orMark (verdict? sources policy s) := by
  rw [unmatched, statements_reconcile, statements_reconcile, statements_ofFiltered,
    List.filter_map]
  rfl

theorem missing_outcomeAgainst :
    ((ofFiltered sources policy).outcomeAgainst sql).missing =
      (unmatched sources sql).filter fun s => (verdict? sources policy s).isNone := by
  rw [← filter_not_isFiltered_map_orMark (filter_of_mem_unmatched sources sql),
    ← statements_reconcile_ofFiltered]
  rfl

theorem filtered_outcomeAgainst :
    ((ofFiltered sources policy).outcomeAgainst sql).filtered.map Statement.bare =
      (unmatched sources sql).filter fun s => (verdict? sources policy s).isSome := by
  rw [← map_bare_filter_isFiltered_map_orMark (filter_of_mem_unmatched sources sql),
    ← statements_reconcile_ofFiltered]
  rfl

/-- No statement that was read is reported twice. -/
theorem nodup_reported :
    (((ofFiltered sources policy).outcomeAgainst sql).missing ++
      ((ofFiltered sources policy).outcomeAgainst sql).filtered.map Statement.bare).Nodup := by
  have distinct : (unmatched sources sql).Nodup :=
    (unmatched_sublist sources sql).nodup <| (positions_ofSources sources).imp fun less same =>
      Nat.ne_of_lt less (congrArg Statement.position same)
  rw [missing_outcomeAgainst, filtered_outcomeAgainst, List.nodup_append]
  refine ⟨distinct.filter _, distinct.filter _, fun s hs t ht same => ?_⟩
  have none := (List.mem_filter.1 hs).2
  have some := (List.mem_filter.1 ht).2
  rw [← same, Option.isSome_iff_ne_none] at some
  exact some (Option.isNone_iff_eq_none.1 none)

end History

/-- What a run reports. A statement that was read is missing if the new migration does not regenerate it,
no enabled rule of the policy matches it, and nothing later that the policy leaves in undoes it. It is
reported as filtered if the new migration does not regenerate it and one of the other two fails. Both lists
are in the order of the history, and report nothing else and nothing twice. -/
theorem reported_exactly (sources : List Source) (policy : Policy) (sql : String) :
    let full := History.ofSources sources
    let outcome := (History.ofFiltered sources policy).outcomeAgainst sql
    (∀ s, s ∈ outcome.missing ↔ s ∈ full.statements ∧ ¬ Sql.Regenerates sql s.text ∧
      policy.evaluate s.text = none ∧ full.Lasts policy s) ∧
    (∀ s, s ∈ outcome.filtered.map Statement.bare ↔
      s ∈ full.statements ∧ ¬ Sql.Regenerates sql s.text ∧
        ¬ (policy.evaluate s.text = none ∧ full.Lasts policy s)) ∧
    outcome.missing.Sublist full.statements ∧
    (outcome.filtered.map Statement.bare).Sublist full.statements ∧
    (outcome.missing ++ outcome.filtered.map Statement.bare).Nodup := by
  intro full outcome
  refine ⟨fun s => ?_, fun s => ?_, ?_, ?_, History.nodup_reported sources policy sql⟩
  · rw [History.missing_outcomeAgainst, List.mem_filter, History.unmatched, History.mem_reconcile,
      Option.isNone_iff_eq_none, History.verdict?_eq_none_iff, and_assoc]
  · rw [History.filtered_outcomeAgainst, List.mem_filter, History.unmatched, History.mem_reconcile,
      Option.isSome_iff_ne_none, Ne, History.verdict?_eq_none_iff, and_assoc]
  · rw [History.missing_outcomeAgainst]
    exact List.filter_sublist.trans (History.unmatched_sublist sources sql)
  · rw [History.filtered_outcomeAgainst]
    exact List.filter_sublist.trans (History.unmatched_sublist sources sql)

end SchemaHistory
