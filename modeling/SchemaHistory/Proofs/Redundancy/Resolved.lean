import Mathlib.Data.List.Forall2
import Mathlib.Order.Nat
import SchemaHistory.Proofs.Redundancy.Pass

/-!
What a resolved history is, said without its search: which statement gets which reason.

The statements of a history that was read from migrations stand in the order of their positions, and no
pass changes that. In such a history the search cites the nearest statement that undoes another, so the
reasons are determined by the statements alone.
-/

namespace SchemaHistory

/-- The positions of the statements do not fall along the list. -/
def History.Ascending (h : History) : Prop := h.statements.Pairwise (·.position ≤ ·.position)

instance (h : History) : Decidable h.Ascending :=
  inferInstanceAs (Decidable (h.statements.Pairwise (·.position ≤ ·.position)))

namespace Redundancy

namespace Pairing

variable {α : Type}

/-- The positions of the undoers ascend with those of the statements. -/
theorem undoers_ascending (pairing : Pairing α) {h : History} (ascending : h.Ascending) :
    (pairing.undoers h).Pairwise (·.2 ≤ ·.2) := by
  refine (List.Pairwise.filter _ ascending).filterMap _ ?_
  intro s t le (_, p) hp (_, q) hq
  simp only [Option.map_eq_some_iff, Prod.mk.injEq] at hp hq
  obtain ⟨_, -, -, rfl⟩ := hp
  obtain ⟨_, -, -, rfl⟩ := hq
  exact le

variable [BEq α] [LawfulBEq α]

theorem mem_positionsOf {found : List (α × Nat)} {target : α} {q : Nat} :
    q ∈ (found.filter (·.1 == target)).map (·.2) ↔ (target, q) ∈ found := by
  rw [List.mem_map]
  constructor
  · rintro ⟨⟨other, _⟩, member, rfl⟩
    obtain ⟨member, same⟩ := List.mem_filter.1 member
    rwa [← eq_of_beq same]
  · intro member
    exact ⟨(target, q), List.mem_filter.2 ⟨member, beq_self_eq_true target⟩, rfl⟩

/-- What is cited undoes the target later, in whatever order the statements are. -/
theorem undoes_of_undoneAt {pairing : Pairing α} {h : History} {target : α} {p q : Nat}
    (cited : undoneAt (pairing.undoers h) target p = some q) :
    p < q ∧ pairing.Undoes h target q := by
  obtain ⟨member, later⟩ := mem_and_lt_of_nextAfter cited
  exact ⟨later, mem_undoers.1 (mem_positionsOf.1 member)⟩

/-- A reason cites a later position at which what the statement makes is undone. -/
theorem exists_undoes_of_reasonFor? {pairing : Pairing α} {h : History} {s : Statement}
    {reason : FilterReason} (found : pairing.reasonFor? h s = some reason) :
    ∃ target q, reason = pairing.reason target q ∧ pairing.made? s.text = some target ∧
      s.position < q ∧ pairing.Undoes h target q := by
  obtain ⟨target, made, q, cited, rfl⟩ := exists_of_reasonFor? found
  obtain ⟨later, undoes⟩ := undoes_of_undoneAt cited
  exact ⟨target, q, rfl, made, later, undoes⟩

/-- In ascending order what is cited is the nearest of what undoes the target later. -/
theorem undoneAt_eq_some_iff {pairing : Pairing α} {h : History} (ascending : h.Ascending)
    {target : α} {p q : Nat} :
    undoneAt (pairing.undoers h) target p = some q ↔
      IsLeast {x | p < x ∧ pairing.Undoes h target x} q := by
  have sorted : (((pairing.undoers h).filter (·.1 == target)).map (·.2)).Pairwise (· ≤ ·) :=
    List.pairwise_map.2 ((pairing.undoers_ascending ascending).filter _)
  rw [undoneAt, nextAfter_eq_some_iff sorted]
  simp only [mem_positionsOf, mem_undoers, and_comm]

theorem undoneAt_eq_none_iff {pairing : Pairing α} {h : History} (ascending : h.Ascending)
    {target : α} {p : Nat} :
    undoneAt (pairing.undoers h) target p = none ↔ ∀ q, p < q → ¬ pairing.Undoes h target q := by
  constructor
  · intro nothing q later undoes
    classical
    -- among the positions at which the target is undone there is a least one
    have least := Nat.isLeast_find (p := fun x => p < x ∧ pairing.Undoes h target x)
      ⟨q, later, undoes⟩
    rw [← undoneAt_eq_some_iff ascending, nothing] at least
    simp at least
  · intro never
    rw [Option.eq_none_iff_forall_ne_some]
    intro q cited
    obtain ⟨later, undoes⟩ := undoes_of_undoneAt cited
    exact never q later undoes

/-- Something that the statement makes is undone later. -/
def IsUndone (pairing : Pairing α) (h : History) (s : Statement) : Prop :=
  ∃ target q, pairing.made? s.text = some target ∧ s.position < q ∧ pairing.Undoes h target q

theorem reasonFor?_eq_none_iff {pairing : Pairing α} {h : History} (ascending : h.Ascending)
    {s : Statement} : pairing.reasonFor? h s = none ↔ ¬ pairing.IsUndone h s := by
  rw [reasonFor?]
  cases made : pairing.made? s.text with
  | none => simp [IsUndone, made]
  | some target =>
    simp [IsUndone, made, undoneAt_eq_none_iff ascending]

theorem reasonFor?_eq_some_iff {pairing : Pairing α} {h : History} (ascending : h.Ascending)
    {s : Statement} {reason : FilterReason} :
    pairing.reasonFor? h s = some reason ↔ ∃ target q, pairing.made? s.text = some target ∧
      IsLeast {x | s.position < x ∧ pairing.Undoes h target x} q ∧
      reason = pairing.reason target q := by
  rw [reasonFor?]
  cases made : pairing.made? s.text with
  | none => simp
  | some target =>
    simp [undoneAt_eq_some_iff ascending, eq_comm]

end Pairing

/-- The reason that a statement of a history has once the history is resolved: one that it had before,
the nearest later dropping of the object it creates, or else the nearest later dropping of the constraint
it adds, or none. -/
inductive Resolved (h : History) (s : Statement) : Option FilterReason → Prop where
  | before {reason : FilterReason} (had : s.filter = some reason) : Resolved h s (some reason)
  | object {object : ObjectRef} {position : Nat} (unfiltered : s.filter = none)
      (created : Sql.created? s.text = some object)
      (nearest : IsLeast {q | s.position < q ∧ objects.Undoes h object q} position) :
      Resolved h s (some (.createDropped object.kind object.name position))
  | constraint {constraint : ConstraintRef} {position : Nat} (unfiltered : s.filter = none)
      (lasting : ¬ objects.IsUndone h s)
      (added : Sql.constraintAdded? s.text = some constraint)
      (nearest : IsLeast {q | s.position < q ∧ constraints.Undoes h constraint q} position) :
      Resolved h s (some (.constraintDropped constraint.table constraint.name position))
  | kept (unfiltered : s.filter = none) (lastingObject : ¬ objects.IsUndone h s)
      (lastingConstraint : ¬ constraints.IsUndone h s) : Resolved h s none

/-- The reasons of a resolved history are determined: what resolving leaves on a statement is what
`Resolved` says of it, and nothing else is. -/
theorem filter_orMark_reasonFor?_eq_iff {h : History} (ascending : h.Ascending) (s : Statement)
    (reason? : Option FilterReason) :
    (s.orMark (reasonFor? h s)).filter = reason? ↔ Resolved h s reason? := by
  constructor
  · rintro rfl
    cases had : s.filter with
    | some reason =>
      rw [Statement.filter_orMark_of_some had]
      exact .before had
    | none =>
      rw [Statement.filter_orMark_of_none had, reasonFor?]
      cases object : objects.reasonFor? h s with
      | some reason =>
        obtain ⟨target, q, made, nearest, rfl⟩ :=
          (Pairing.reasonFor?_eq_some_iff ascending).1 object
        exact .object had made nearest
      | none =>
        have lasting := (Pairing.reasonFor?_eq_none_iff ascending).1 object
        cases constraint : constraints.reasonFor? h s with
        | some reason =>
          obtain ⟨target, q, made, nearest, rfl⟩ :=
            (Pairing.reasonFor?_eq_some_iff ascending).1 constraint
          exact .constraint had lasting made nearest
        | none => exact .kept had lasting ((Pairing.reasonFor?_eq_none_iff ascending).1 constraint)
  · intro resolved
    cases resolved with
    | before had => exact Statement.filter_orMark_of_some had _
    | object unfiltered created nearest =>
      rw [Statement.filter_orMark_of_none unfiltered, reasonFor?,
        (Pairing.reasonFor?_eq_some_iff ascending).2 ⟨_, _, created, nearest, rfl⟩]
      rfl
    | constraint unfiltered lasting added nearest =>
      rw [Statement.filter_orMark_of_none unfiltered, reasonFor?,
        (Pairing.reasonFor?_eq_none_iff ascending).2 lasting,
        (Pairing.reasonFor?_eq_some_iff ascending).2 ⟨_, _, added, nearest, rfl⟩]
      rfl
    | kept unfiltered lastingObject lastingConstraint =>
      rw [Statement.filter_orMark_of_none unfiltered, reasonFor?,
        (Pairing.reasonFor?_eq_none_iff ascending).2 lastingObject,
        (Pairing.reasonFor?_eq_none_iff ascending).2 lastingConstraint]
      rfl

/-- What resolving `h` makes of a statement of it: the statement as it was read, with the reason that is
determined for it. -/
structure ResolvesTo (h : History) (s s' : Statement) : Prop where
  text : s'.text = s.text
  source : s'.source = s.source
  position : s'.position = s.position
  reason : ∀ reason?, s'.filter = reason? ↔ Resolved h s reason?

/-- Resolving a history with ascending positions keeps its statements, in order and as they were read,
and leaves on each of them the reason that it has by what is undone later. -/
theorem resolve_exact (h : History) (ascending : h.Ascending) :
    List.Forall₂ (ResolvesTo h) h.statements h.resolve.statements := by
  rw [History.statements_resolve, List.forall₂_map_right_iff, List.forall₂_same]
  intro s _
  exact ⟨rfl, rfl, rfl, filter_orMark_reasonFor?_eq_iff ascending s⟩

/-- A table that is created once and dropped three times, first by a statement that is filtered already,
and a view of the same name; some positions are missing. -/
def droppedAgain : History :=
  ⟨[.unfiltered "CREATE TABLE a (id INT)" "init" 0,
    ⟨"DROP TABLE a", "init", 2, some (.policy "drops" "Noise")⟩,
    .unfiltered "CREATE VIEW a AS SELECT 1" "views" 3,
    .unfiltered "DROP TABLE IF EXISTS \"A\"" "cleanup" 5,
    .unfiltered "DROP TABLE a" "cleanup" 8]⟩

theorem resolve_exact_droppedAgain :
    droppedAgain.Ascending ∧
      List.Forall₂ (ResolvesTo droppedAgain) droppedAgain.statements droppedAgain.resolve.statements :=
  have ascending : droppedAgain.Ascending := by decide
  ⟨ascending, resolve_exact droppedAgain ascending⟩

example : droppedAgain.resolve.statements.map (·.filter) =
    [some (.createDropped .table "a" 5), some (.policy "drops" "Noise"), none, none, none] := by
  decide +kernel

end Redundancy

end SchemaHistory
