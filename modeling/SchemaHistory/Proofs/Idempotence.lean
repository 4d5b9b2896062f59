import SchemaHistory.Proofs.Redundancy.Resolved

/-!
Filtering a history that is filtered already.

What the first run has filtered takes no part in the second one: a statement that was found redundant
undoes nothing any more. So the second run has fewer statements to go by, and what the first run kept it
has no reason to filter. The positions have to ascend for this; where they do not, the search in the
shorter list can find what it missed in the longer one.
-/

namespace SchemaHistory

namespace History

variable {h : History} {p : Policy}

/-! ### Passes that change nothing -/

/-- Statements are left as they were if there is a reason for none of those that have none. -/
theorem map_orMark_eq_self {l : List Statement} {reason? : Statement → Option FilterReason}
    (nothing : ∀ s ∈ l, s.filter = none → reason? s = none) :
    (l.map fun s => s.orMark (reason? s)) = l := by
  have same : ∀ s ∈ l, s.orMark (reason? s) = id s := by
    intro s member
    cases had : s.filter with
    | some reason => exact Statement.orMark_of_some had _
    | none => rw [nothing s member had, Statement.orMark_none, id]
  rw [List.map_congr_left same, List.map_id]

theorem applyPolicy_eq_self (nothing : ∀ s ∈ h.statements, s.filter = none → p.reasonFor s.text = none) :
    h.applyPolicy p = h :=
  congrArg History.mk ((h.statements_applyPolicy p).trans (map_orMark_eq_self nothing))

theorem resolve_eq_self
    (nothing : ∀ s ∈ h.statements, s.filter = none → Redundancy.reasonFor? h s = none) : h.resolve = h :=
  congrArg History.mk (h.statements_resolve.trans (map_orMark_eq_self nothing))

/-! ### What a pass leaves unfiltered -/

/-- A statement that a policy leaves unfiltered is one that it has no reason for. -/
theorem reasonFor_of_mem_applyPolicy {s : Statement} (member : s ∈ (h.applyPolicy p).statements)
    (unfiltered : s.filter = none) : p.reasonFor s.text = none := by
  rw [statements_applyPolicy, List.mem_map] at member
  obtain ⟨t, -, rfl⟩ := member
  exact (Statement.filter_orMark_eq_none_iff.1 unfiltered).2

/-- A statement that resolving leaves unfiltered stood there unfiltered before, and there was no reason. -/
theorem of_mem_resolve {s : Statement} (member : s ∈ h.resolve.statements)
    (unfiltered : s.filter = none) : s ∈ h.statements ∧ Redundancy.reasonFor? h s = none := by
  rw [statements_resolve, List.mem_map] at member
  obtain ⟨t, before, rfl⟩ := member
  obtain ⟨-, nothing⟩ := Statement.filter_orMark_eq_none_iff.1 unfiltered
  rw [nothing, Statement.orMark_none]
  exact ⟨before, nothing⟩

/-! ### Resolving twice -/

theorem ascending_resolve (ascending : h.Ascending) : h.resolve.Ascending := by
  rw [Ascending, statements_resolve, List.pairwise_map]
  exact ascending

theorem ascending_applyPolicy_of_ascending (ascending : h.Ascending) : (h.applyPolicy p).Ascending := by
  rw [Ascending, statements_applyPolicy, List.pairwise_map]
  exact ascending

section Pairing

variable {α : Type} {pairing : Redundancy.Pairing α}

/-- What undoes something after resolving did so before. -/
theorem undoes_of_undoes_resolve {target : α} {q : Nat} (undoes : pairing.Undoes h.resolve target q) :
    pairing.Undoes h target q := by
  obtain ⟨t, member, unfiltered, undone, position⟩ := undoes
  exact ⟨t, (of_mem_resolve member unfiltered).1, unfiltered, undone, position⟩

/-- A pass that had no reason for a statement has none after resolving. -/
theorem reasonFor?_resolve [BEq α] [LawfulBEq α] (ascending : h.Ascending) {s : Statement}
    (nothing : pairing.reasonFor? h s = none) : pairing.reasonFor? h.resolve s = none := by
  rw [Redundancy.Pairing.reasonFor?_eq_none_iff ascending] at nothing
  rw [Redundancy.Pairing.reasonFor?_eq_none_iff (ascending_resolve ascending)]
  rintro ⟨target, q, made, later, undoes⟩
  exact nothing ⟨target, q, made, later, undoes_of_undoes_resolve undoes⟩

end Pairing

/-- Resolving a second time changes nothing. -/
theorem resolve_resolve (ascending : h.Ascending) : h.resolve.resolve = h.resolve := by
  refine resolve_eq_self fun s member unfiltered => ?_
  obtain ⟨-, nothing⟩ := of_mem_resolve member unfiltered
  rw [Redundancy.reasonFor?_eq_none_iff] at nothing ⊢
  exact ⟨reasonFor?_resolve ascending nothing.1, reasonFor?_resolve ascending nothing.2⟩

/-- A policy has nothing to add to what it and the resolving after it have filtered. -/
theorem applyPolicy_resolve_applyPolicy (h : History) (p : Policy) :
    (h.applyPolicy p).resolve.applyPolicy p = (h.applyPolicy p).resolve :=
  applyPolicy_eq_self fun _ member unfiltered =>
    reasonFor_of_mem_applyPolicy (of_mem_resolve member unfiltered).1 unfiltered

end History

/-- Filtering a filtered history with the same policy changes nothing, and neither does one of the two passes
alone. -/
theorem filtering_idempotent (p : Policy) (h : History) (ascending : h.Ascending) :
    let filtered := (h.applyPolicy p).resolve
    (filtered.applyPolicy p).resolve = filtered ∧ filtered.applyPolicy p = filtered ∧
      filtered.resolve = filtered := by
  intro filtered
  have again : filtered.applyPolicy p = filtered := h.applyPolicy_resolve_applyPolicy p
  have resolved : filtered.resolve = filtered :=
    History.resolve_resolve (History.ascending_applyPolicy_of_ascending ascending)
  exact ⟨by rw [again, resolved], again, resolved⟩

/-- A table that a function drops, and the function that is dropped in turn, so that what the first run goes
by is filtered in it. -/
def droppedInTurn : History :=
  ⟨[.unfiltered "CREATE TABLE a (id INT)" "init" 0,
    .unfiltered "INSERT INTO a VALUES (1)" "init" 0,
    .unfiltered "CREATE FUNCTION f() RETURNS void AS 'DROP TABLE a' LANGUAGE sql" "clean" 3,
    ⟨"DROP TABLE a", "clean", 4, some (.policy "drops" "Noise")⟩,
    .unfiltered "DROP FUNCTION f" "later" 7]⟩

/-- The policy whose one rule filters the statements that begin with INSERT. -/
def withoutInserts : Policy :=
  ⟨[⟨⟨"seed", ["^INSERT"], "Seed data", true⟩, (Pattern.parse? "^INSERT").toList⟩]⟩

theorem filtering_idempotent_droppedInTurn :
    droppedInTurn.Ascending ∧
      let filtered := (droppedInTurn.applyPolicy withoutInserts).resolve
      (filtered.applyPolicy withoutInserts).resolve = filtered ∧
        filtered.applyPolicy withoutInserts = filtered ∧ filtered.resolve = filtered :=
  have ascending : droppedInTurn.Ascending := by decide
  ⟨ascending, filtering_idempotent withoutInserts droppedInTurn ascending⟩

/-- In a list that does not ascend the second run can find what the first one missed. -/
example :
    let h : History := ⟨[.unfiltered "CREATE TABLE a (id INT)" "init" 5,
      .unfiltered "DROP TABLE a" "clean" 7,
      .unfiltered "CREATE FUNCTION f() RETURNS void AS 'DROP TABLE a' LANGUAGE sql" "clean" 1,
      .unfiltered "CREATE FUNCTION f() RETURNS void AS 'DROP TABLE a' LANGUAGE sql" "clean" 1,
      .unfiltered "DROP FUNCTION f" "later" 9]⟩
    h.resolve.filteredCount = 2 ∧ h.resolve.resolve.filteredCount = 3 := by
  decide +kernel

end SchemaHistory
