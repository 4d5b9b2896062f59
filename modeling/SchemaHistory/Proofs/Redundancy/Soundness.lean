import SchemaHistory.Proofs.Redundancy.Resolved

/-!
What resolving can do to a history whose positions stand in any order.

A history that is not read from migrations may have its positions in any order, or some of them twice. The
search goes by halving, so that it may then miss what undoes a statement. But it does not cite anything
else: a cited position is always one at which an unfiltered statement undoes the same thing, and always
a greater one.
-/

namespace SchemaHistory

namespace Redundancy

/-- What supports a reason on a statement of `h`: at the cited position, which is greater, a statement that
is not filtered in `h` drops the object or the constraint that the statement makes. -/
def Supports (h : History) (s : Statement) : FilterReason → Prop
  | .policy .. => False
  | .createDropped kind name d => s.position < d ∧ Sql.created? s.text = some ⟨kind, name⟩ ∧
      ∃ t ∈ h.statements, t.filter = none ∧ t.position = d ∧ Sql.dropped? t.text = some ⟨kind, name⟩
  | .constraintDropped table name d => s.position < d ∧
      Sql.constraintAdded? s.text = some ⟨table, name⟩ ∧
      ∃ t ∈ h.statements, t.filter = none ∧ t.position = d ∧
        Sql.constraintDropped? t.text = some ⟨table, name⟩

/-- Each of the two passes cites what undoes the statement, and so does the one that decides. -/
theorem supports_of_reasonFor? {h : History} {s : Statement} {reason : FilterReason}
    (found : reasonFor? h s = some reason) : Supports h s reason := by
  rcases reasonFor?_eq_some_iff.1 found with object | ⟨-, constraint⟩
  · obtain ⟨_, d, rfl, created, later, t, member, free, dropped, position⟩ :=
      Pairing.exists_undoes_of_reasonFor? object
    exact ⟨later, created, t, member, free, position, dropped⟩
  · obtain ⟨_, d, rfl, added, later, t, member, free, dropped, position⟩ :=
      Pairing.exists_undoes_of_reasonFor? constraint
    exact ⟨later, added, t, member, free, position, dropped⟩

/-- What resolving `h` may have made of a statement of it: all is as it was, but for a reason that was
missing and is supported. -/
structure SoundlyResolved (h : History) (s s' : Statement) : Prop where
  text : s'.text = s.text
  source : s'.source = s.source
  position : s'.position = s.position
  kept : ∀ reason, s.filter = some reason → s'.filter = some reason
  given : s.filter = none → ∀ reason, s'.filter = some reason → Supports h s reason

/-- Resolving any history at all, in whatever order its positions are, changes no statement but by giving
reasons, and gives only those that an unfiltered statement at a greater position supports. -/
theorem resolve_sound (h : History) :
    List.Forall₂ (SoundlyResolved h) h.statements h.resolve.statements := by
  rw [History.statements_resolve, List.forall₂_map_right_iff, List.forall₂_same]
  intro s _
  refine ⟨rfl, rfl, rfl, fun reason had => Statement.filter_orMark_of_some had _,
    fun unfiltered reason given => ?_⟩
  rw [Statement.filter_orMark_of_none unfiltered] at given
  exact supports_of_reasonFor? given

/-- Where positions fall along the list, a dropping can be missed. -/
example : (History.resolve ⟨[.unfiltered "CREATE TABLE a (id INT)" "init" 5,
    .unfiltered "DROP TABLE a" "last" (2 ^ 64 - 1), .unfiltered "DROP TABLE a" "first" 1,
    .unfiltered "DROP TABLE a" "first" 1]⟩).statements.map (·.filter) = [none, none, none, none] := by
  decide +kernel

end Redundancy

end SchemaHistory
