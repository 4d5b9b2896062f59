import Mathlib.Logic.Relation
import SchemaHistory.Proofs.Outcome

/-!
What becomes of the statements that reasons cite.

A statement that drops one thing may create another, and a later statement may drop that. So a cited
statement is not always kept: it is kept if and only if nothing later undoes what it makes. One that is
filtered cites a later one in turn, and at the end of such a chain stands a statement that is kept.
-/

namespace SchemaHistory

/-- The position that a reason cites. -/
def FilterReason.citedPosition? : FilterReason → Option Nat
  | policy .. => none
  | createDropped _ _ position => some position
  | constraintDropped _ _ position => some position

namespace Statement

/-- The position that the reason of a statement cites. -/
def citedPosition? (s : Statement) : Option Nat := s.filter.bind FilterReason.citedPosition?

/-- A statement is filtered because of another one. -/
def Cites (s cited : Statement) : Prop := s.citedPosition? = some cited.position

end Statement

namespace History

variable {sources : List Source} {policy : Policy}

/-! ### What a reason cites -/

/-- What a pass over redundancy cites is a statement that the policy leaves in. -/
theorem exists_undoer_of_reasonFor? {α : Type} [BEq α] [LawfulBEq α]
    {pairing : Redundancy.Pairing α} {s : Statement} {reason : FilterReason}
    (found : pairing.reasonFor? ((ofSources sources).applyPolicy policy) s = some reason) :
    ∃ target, ∃ later ∈ (ofSources sources).statements, policy.evaluate later.text = none ∧
      s.position < later.position ∧ pairing.made? s.text = some target ∧
      pairing.undone? later.text = some target ∧
      reason = pairing.reason target later.position := by
  obtain ⟨target, q, rfl, made, less, undoes⟩ := Redundancy.Pairing.exists_undoes_of_reasonFor? found
  obtain ⟨later, member, free, undone, rfl⟩ := undoes_applyPolicy_iff.1 undoes
  exact ⟨target, later, member, free, less, made, undone, rfl⟩

/-- A reason of redundancy cites a later statement that the policy leaves in and that undoes the first. -/
theorem exists_cited_of_reasonFor? {s : Statement} {reason : FilterReason}
    (found : Redundancy.reasonFor? ((ofSources sources).applyPolicy policy) s = some reason) :
    ∃ later ∈ (ofSources sources).statements, reason.citedPosition? = some later.position ∧
      s.position < later.position ∧ policy.evaluate later.text = none ∧ s.UndoneBy later := by
  rcases Redundancy.reasonFor?_eq_some_iff.1 found with object | ⟨-, constraint⟩
  · obtain ⟨target, later, member, free, less, made, undone, rfl⟩ :=
      exists_undoer_of_reasonFor? object
    exact ⟨later, member, rfl, less, free, Or.inl ⟨target, made, undone⟩⟩
  · obtain ⟨target, later, member, free, less, made, undone, rfl⟩ :=
      exists_undoer_of_reasonFor? constraint
    exact ⟨later, member, rfl, less, free, Or.inr ⟨target, made, undone⟩⟩

/-- The statements of a filtered history are those that were read, each with its verdict. -/
theorem exists_of_mem_ofFiltered {s : Statement}
    (member : s ∈ (ofFiltered sources policy).statements) :
    ∃ t ∈ (ofSources sources).statements, s = t.orMark (verdict? sources policy t) := by
  rw [statements_ofFiltered, List.mem_map] at member
  obtain ⟨t, read, rfl⟩ := member
  exact ⟨t, read, rfl⟩

/-- Filtering leaves every statement at its place. -/
theorem getElem?_position_ofFiltered {s : Statement}
    (member : s ∈ (ofSources sources).statements) :
    (ofFiltered sources policy).statements[s.position]? =
      some (s.orMark (verdict? sources policy s)) := by
  rw [statements_ofFiltered, List.getElem?_map, getElem?_position_of_mem_ofSources member]
  rfl

/-- The verdict of a policy cites nothing, so that a citation comes from redundancy. -/
theorem exists_cited_of_verdict? {s : Statement} {d : Nat}
    (cites : (verdict? sources policy s).bind FilterReason.citedPosition? = some d) :
    ∃ later ∈ (ofSources sources).statements, later.position = d ∧ s.position < later.position ∧
      policy.evaluate later.text = none ∧ s.UndoneBy later := by
  obtain ⟨reason, given, position⟩ := Option.bind_eq_some_iff.1 cites
  rw [verdict?, Option.orElse_apply, Option.orElse_eq_or, Option.or_eq_some_iff] at given
  rcases given with ruled | ⟨-, redundant⟩
  · obtain ⟨_, -, rfl⟩ := Option.map_eq_some_iff.1 ruled
    exact absurd position (Option.some_ne_none _).symm
  · obtain ⟨later, member, cited, less, free, undone⟩ := exists_cited_of_reasonFor? redundant
    rw [cited] at position
    exact ⟨later, member, Option.some.inj position, less, free, undone⟩

/-! ### Chains of citations -/

/-- One step along a chain: a statement that the policy leaves in is kept, or it cites a later one that
the policy leaves in. -/
theorem kept_or_exists_cites {s : Statement} (member : s ∈ (ofSources sources).statements)
    (free : policy.evaluate s.text = none) :
    (s.orMark (verdict? sources policy s)).filter = none ∨
    ∃ later ∈ (ofSources sources).statements, s.position < later.position ∧
      policy.evaluate later.text = none ∧
      (s.orMark (verdict? sources policy s)).Cites
        (later.orMark (verdict? sources policy later)) := by
  have unfiltered := filter_of_mem_ofSources member
  cases given : verdict? sources policy s with
  | none => exact Or.inl (Statement.filter_orMark_of_none unfiltered none)
  | some reason =>
    have redundant := given
    rw [verdict?, Policy.reasonFor, free] at redundant
    obtain ⟨later, member, cited, less, free, -⟩ := exists_cited_of_reasonFor? redundant
    refine Or.inr ⟨later, member, less, free, ?_⟩
    rw [Statement.Cites, Statement.citedPosition?, Statement.filter_orMark_of_none unfiltered]
    exact cited

/-- From a statement that the policy leaves in, some chain of citations leads to a statement that is
kept. Positions rise along it and end with the history. -/
theorem exists_kept_of_free {s : Statement} (member : s ∈ (ofSources sources).statements)
    (free : policy.evaluate s.text = none) :
    ∃ last ∈ (ofFiltered sources policy).statements, last.filter = none ∧
      Relation.ReflTransGen Statement.Cites (s.orMark (verdict? sources policy s)) last := by
  induction left : (ofSources sources).size - s.position using Nat.strong_induction_on
    generalizing s with
  | _ n ih =>
    rcases kept_or_exists_cites member free with kept | ⟨later, read, less, free, cites⟩
    · exact ⟨_, List.mem_of_getElem? (getElem?_position_ofFiltered member), kept, .refl⟩
    · have nearer : (ofSources sources).size - later.position < n := by
        have := position_lt_size_of_mem_ofSources read
        omega
      obtain ⟨last, reached, kept, chain⟩ := ih _ nearer read free rfl
      exact ⟨last, reached, kept, .head cites chain⟩

end History

/-- What holds of a statement that the reason of another cites: it stands later and undoes what the other
makes, and the policy leaves it in. It is kept if and only if nothing later that the policy leaves in
undoes what it makes itself, and a chain of further citations leads on from it to a statement that is
kept. -/
structure Citation (sources : List Source) (policy : Policy) (s cited : Statement) : Prop where
  cites : s.Cites cited
  later : s.position < cited.position
  undoes : s.UndoneBy cited
  free : policy.evaluate cited.text = none
  kept_iff : cited.filter = none ↔ (History.ofSources sources).Lasts policy cited
  ends_kept : ∃ last ∈ (History.ofFiltered sources policy).statements, last.filter = none ∧
    Relation.ReflTransGen Statement.Cites cited last

/-- A position that is cited in a filtered history is the place of a statement that is kept unless it is
undone itself. -/
theorem exists_citation (sources : List Source) (policy : Policy) {s : Statement} {d : Nat}
    (member : s ∈ (History.ofFiltered sources policy).statements) (cites : s.citedPosition? = some d) :
    ∃ cited, (History.ofFiltered sources policy).statements[d]? = some cited ∧
      Citation sources policy s cited := by
  obtain ⟨t, read, rfl⟩ := History.exists_of_mem_ofFiltered member
  have verdict := cites
  rw [Statement.citedPosition?,
    Statement.filter_orMark_of_none (History.filter_of_mem_ofSources read)] at verdict
  obtain ⟨later, readLater, rfl, less, free, undone⟩ := History.exists_cited_of_verdict? verdict
  refine ⟨later.orMark (History.verdict? sources policy later),
    History.getElem?_position_ofFiltered readLater, cites, less, undone, free, ?_,
    History.exists_kept_of_free readLater free⟩
  rw [Statement.filter_orMark_of_none (History.filter_of_mem_ofSources readLater),
    History.verdict?_eq_none_iff]
  exact and_iff_right free

/-! ### A cited statement that is filtered -/

/-- A table, a function that drops the table when it is called, and the dropping of the function. -/
def droppedByFunction : List Source :=
  [⟨"init", "CREATE TABLE tmp (id INT);"⟩,
    ⟨"cleanup", "CREATE FUNCTION cleanup() RETURNS void AS 'DROP TABLE tmp' LANGUAGE sql;"⟩,
    ⟨"later", "DROP FUNCTION cleanup;"⟩]

/-- The creation of the table as it stands in the filtered history. -/
def tableOfFunction : Statement :=
  ⟨"CREATE TABLE tmp (id INT)", "init", 0, some (.createDropped .table "tmp" 1)⟩

theorem statements_droppedByFunction :
    (History.ofFiltered droppedByFunction ⟨[]⟩).statements =
      [tableOfFunction,
        ⟨"CREATE FUNCTION cleanup() RETURNS void AS 'DROP TABLE tmp' LANGUAGE sql", "cleanup", 1,
          some (.createDropped .function "cleanup" 2)⟩,
        ⟨"DROP FUNCTION cleanup", "later", 2, none⟩] := by
  decide +kernel

theorem exists_citation_tableOfFunction :
    tableOfFunction ∈ (History.ofFiltered droppedByFunction ⟨[]⟩).statements ∧
      tableOfFunction.citedPosition? = some 1 ∧
      ∃ cited, (History.ofFiltered droppedByFunction ⟨[]⟩).statements[1]? = some cited ∧
        Citation droppedByFunction ⟨[]⟩ tableOfFunction cited :=
  have member : tableOfFunction ∈ (History.ofFiltered droppedByFunction ⟨[]⟩).statements := by
    rw [statements_droppedByFunction]
    exact List.mem_cons_self
  ⟨member, rfl, exists_citation droppedByFunction ⟨[]⟩ member rfl⟩

/-- Not every statement that a reason cites is kept: the function undoes the creation of the table, and is
undone itself. -/
theorem not_forall_cited_kept :
    ¬ ∀ (sources : List Source) (policy : Policy),
      ∀ s ∈ (History.ofFiltered sources policy).statements, ∀ d, s.citedPosition? = some d →
        ∀ cited, (History.ofFiltered sources policy).statements[d]? = some cited →
          cited.filter = none := by
  intro kept
  have unfiltered := kept droppedByFunction ⟨[]⟩
  rw [statements_droppedByFunction] at unfiltered
  exact absurd (unfiltered tableOfFunction List.mem_cons_self 1 rfl _ rfl) (Option.some_ne_none _)

end SchemaHistory
