import Mathlib.Data.List.Induction
import Mathlib.Data.List.Nodup
import SchemaHistory.Proofs.Extraction
import SchemaHistory.Proofs.Redundancy.Resolved

/-!
What holds of a history whatever passes have run over it, and in whatever order.

The passes may be applied to a history any number of times. A reconciliation leaves gaps in the list, so
that the index of a statement and its position come apart, and a later pass over redundancy goes by what is
left. Whatever the order, every statement is one of those that were read, with the position it had
there, and every reason is explained by the full history and by the policies that were applied: a cited
position names a statement of the full history also when that statement has been taken out since.
-/

namespace SchemaHistory

/-- A pass over a history. -/
inductive Stage where
  | policy (p : Policy)
  | redundancy
  | reconciliation (sql : String)

namespace Stage

/-- The history after a pass. -/
def apply : Stage → History → History
  | .policy p, h => h.applyPolicy p
  | .redundancy, h => h.resolve
  | .reconciliation sql, h => (h.reconcile sql).history

/-- Whether a pass leaves a statement in. -/
def keeps : Stage → Statement → Bool
  | .reconciliation sql, s => !(Sql.normalForms sql).contains (Sql.normal s.text)
  | _, _ => true

/-- The reason that a pass over `h` has for a statement. -/
def reasonFor? : Stage → History → Statement → Option FilterReason
  | .policy p, _, s => p.reasonFor s.text
  | .redundancy, h, s => Redundancy.reasonFor? h s
  | .reconciliation _, _, _ => none

/-- All that a pass can do: it takes statements out, and gives a reason to some that have none. -/
theorem statements_apply (stage : Stage) (h : History) :
    (stage.apply h).statements =
      (h.statements.filter stage.keeps).map fun s => s.orMark (stage.reasonFor? h s) := by
  cases stage with
  | policy p =>
    have all : ∀ s ∈ h.statements, (policy p).keeps s = true := fun _ _ => rfl
    rw [List.filter_eq_self.2 all]
    exact h.statements_applyPolicy p
  | redundancy =>
    have all : ∀ s ∈ h.statements, redundancy.keeps s = true := fun _ _ => rfl
    rw [List.filter_eq_self.2 all]
    exact h.statements_resolve
  | reconciliation sql =>
    simp only [reasonFor?, Statement.orMark_none, List.map_id']
    exact h.statements_reconcile sql

/-- What is in the history after a pass was in it before, at most without its reason. -/
theorem exists_of_mem_apply {stage : Stage} {h : History} {s' : Statement}
    (after : s' ∈ (stage.apply h).statements) :
    ∃ s ∈ h.statements, s' = s.orMark (stage.reasonFor? h s) := by
  rw [statements_apply, List.mem_map] at after
  obtain ⟨s, before, rfl⟩ := after
  exact ⟨s, (List.mem_filter.1 before).1, rfl⟩

/-- As they were read, the statements after a pass are some of those before it, in order. -/
theorem bare_apply_sublist (stage : Stage) (h : History) :
    ((stage.apply h).statements.map Statement.bare).Sublist (h.statements.map Statement.bare) := by
  have read : (stage.apply h).statements.map Statement.bare =
      (h.statements.filter stage.keeps).map Statement.bare := by
    rw [statements_apply, List.map_map]
    rfl
  rw [read]
  exact List.filter_sublist.map _

end Stage

/-- The history after some passes, in the order given. -/
def History.run (h : History) (stages : List Stage) : History :=
  stages.foldl (fun h stage => stage.apply h) h

theorem History.run_concat (h : History) (stages : List Stage) (stage : Stage) :
    h.run (stages ++ [stage]) = stage.apply (h.run stages) := by
  rw [run, List.foldl_append]
  rfl

/-- A reason that a statement has stays with it as long as the statement is there. -/
theorem History.exists_of_mem_run {h : History} {stages : List Stage} {s' : Statement}
    (after : s' ∈ (h.run stages).statements) :
    ∃ s ∈ h.statements, s'.bare = s.bare ∧
      ∀ reason, s.filter = some reason → s'.filter = some reason := by
  induction stages using List.reverseRecOn generalizing s' with
  | nil => exact ⟨s', after, rfl, fun _ had => had⟩
  | append_singleton stages stage ih =>
    rw [run_concat] at after
    obtain ⟨between, member, rfl⟩ := Stage.exists_of_mem_apply after
    obtain ⟨s, before, same, stays⟩ := ih member
    exact ⟨s, before, by rw [Statement.bare_orMark, same], fun reason had =>
      Statement.filter_orMark_of_some (stays reason had) _⟩

/-! ### Reasons and what explains them -/

/-- What a reason on a statement is explained by: an enabled rule of an applied policy with a pattern
that is found in the statement, or a later statement of the full history that drops what the statement
makes. -/
def Explained (full : History) (stages : List Stage) (s : Statement) : FilterReason → Prop
  | .policy rule reason => ∃ p, Stage.policy p ∈ stages ∧ ∃ c ∈ p.compiled,
      c.rule.enabled = true ∧ c.patterns.any (·.isFoundIn (Policy.subject s.text)) = true ∧
      c.rule.name = rule ∧ c.rule.reason = reason
  | .createDropped kind name d => s.position < d ∧ d < full.size ∧
      Sql.created? s.text = some ⟨kind, name⟩ ∧
      ∃ later, full.statements[d]? = some later ∧ Sql.dropped? later.text = some ⟨kind, name⟩
  | .constraintDropped table name d => s.position < d ∧ d < full.size ∧
      Sql.constraintAdded? s.text = some ⟨table, name⟩ ∧
      ∃ later, full.statements[d]? = some later ∧
        Sql.constraintDropped? later.text = some ⟨table, name⟩

/-- An explanation stays one when more passes are applied. -/
theorem Explained.mono {full : History} {stages : List Stage} {s : Statement}
    {reason : FilterReason} (explained : Explained full stages s reason) (stage : Stage) :
    Explained full (stages ++ [stage]) s reason := by
  cases reason with
  | policy rule text =>
    obtain ⟨p, applied, rest⟩ := explained
    exact ⟨p, List.mem_append_left _ applied, rest⟩
  | createDropped => exact explained
  | constraintDropped => exact explained

/-- A policy filters by an enabled rule with a pattern that is found. -/
theorem Policy.exists_of_reasonFor {p : Policy} {sql : String} {reason : FilterReason}
    (h : p.reasonFor sql = some reason) :
    ∃ c ∈ p.compiled, c.rule.enabled = true ∧
      c.patterns.any (·.isFoundIn (subject sql)) = true ∧
      reason = .policy c.rule.name c.rule.reason := by
  rw [reasonFor, evaluate, Option.map_map, Option.map_eq_some_iff] at h
  obtain ⟨c, found, rfl⟩ := h
  have applies := List.find?_some found
  rw [CompiledRule.applies, Bool.and_eq_true] at applies
  exact ⟨c, List.mem_of_find?_eq_some found, applies.1, applies.2, rfl⟩

/-- What every state of a history that was read from some migrations keeps: its statements are some of
those that were read, and what reasons they have are explained. -/
structure Sound (full : History) (stages : List Stage) (h : History) : Prop where
  read : (h.statements.map Statement.bare).Sublist full.statements
  explained : ∀ s ∈ h.statements, ∀ reason, s.filter = some reason → Explained full stages s reason

namespace Sound

variable {sources : List Source} {stages : List Stage} {h : History}

/-- A statement is found in the full history at its position. -/
theorem getElem?_position (sound : Sound (.ofSources sources) stages h) {s : Statement}
    (member : s ∈ h.statements) :
    (History.ofSources sources).statements[s.position]? = some s.bare :=
  History.getElem?_position_of_mem_ofSources (s := s.bare)
    (sound.read.subset (List.mem_map_of_mem member))

/-- Positions rise along the list, whatever has been taken out of it. -/
theorem positions (sound : Sound (.ofSources sources) stages h) :
    h.statements.Pairwise (·.position < ·.position) :=
  (List.pairwise_map (f := Statement.bare)).1
    ((History.positions_ofSources sources).sublist sound.read)

/-- A statement is known by its position. -/
theorem eq_of_position (sound : Sound (.ofSources sources) stages h) {s t : Statement}
    (hs : s ∈ h.statements) (ht : t ∈ h.statements) (same : s.position = t.position) : s = t := by
  have distinct : (h.statements.map (·.position)).Nodup :=
    List.pairwise_map.2 (sound.positions.imp fun less => Nat.ne_of_lt less)
  exact List.inj_on_of_nodup_map distinct hs ht same

/-- A reason of the pass over redundancy cites a statement of the full history, whatever is left of it. -/
theorem exists_of_reasonFor? {α : Type} [BEq α] [LawfulBEq α] {pairing : Redundancy.Pairing α}
    (sound : Sound (.ofSources sources) stages h) {s : Statement} {reason : FilterReason}
    (found : pairing.reasonFor? h s = some reason) :
    ∃ target q, reason = pairing.reason target q ∧ pairing.made? s.text = some target ∧
      s.position < q ∧ q < (History.ofSources sources).size ∧
      ∃ later, (History.ofSources sources).statements[q]? = some later ∧
        pairing.undone? later.text = some target := by
  obtain ⟨target, _, rfl, made, less, later, member, -, undone, rfl⟩ :=
    Redundancy.Pairing.exists_undoes_of_reasonFor? found
  have place := sound.getElem?_position member
  exact ⟨target, later.position, rfl, made, less, (List.getElem?_eq_some_iff.1 place).1,
    later.bare, place, undone⟩

theorem explained_redundancy (sound : Sound (.ofSources sources) stages h) {s : Statement}
    {reason : FilterReason} (found : Redundancy.reasonFor? h s = some reason) :
    Explained (.ofSources sources) stages s reason := by
  rcases Redundancy.reasonFor?_eq_some_iff.1 found with object | ⟨-, constraint⟩
  · obtain ⟨target, q, rfl, made, less, inside, later⟩ := sound.exists_of_reasonFor? object
    exact ⟨less, inside, made, later⟩
  · obtain ⟨target, q, rfl, made, less, inside, later⟩ := sound.exists_of_reasonFor? constraint
    exact ⟨less, inside, made, later⟩

/-- A pass over a sound state gives explained reasons only. -/
theorem explained_apply (sound : Sound (.ofSources sources) stages h) (stage : Stage)
    {s : Statement} {reason : FilterReason} (found : stage.reasonFor? h s = some reason) :
    Explained (.ofSources sources) (stages ++ [stage]) s reason := by
  cases stage with
  | policy p =>
    obtain ⟨c, member, enabled, matched, rfl⟩ := Policy.exists_of_reasonFor found
    exact ⟨p, by simp, c, member, enabled, matched, rfl, rfl⟩
  | redundancy => exact (sound.explained_redundancy found).mono _
  | reconciliation sql => exact absurd found (Option.some_ne_none _).symm

/-- A pass keeps a state sound. -/
theorem apply (sound : Sound (.ofSources sources) stages h) (stage : Stage) :
    Sound (.ofSources sources) (stages ++ [stage]) (stage.apply h) where
  read := (stage.bare_apply_sublist h).trans sound.read
  explained := by
    intro s' after reason has
    obtain ⟨s, before, rfl⟩ := Stage.exists_of_mem_apply after
    cases had : s.filter with
    | some old =>
      -- the reason was there before the pass
      rw [Statement.orMark_of_some had] at has ⊢
      exact (sound.explained s before reason has).mono stage
    | none =>
      rw [Statement.filter_orMark_of_none had] at has
      have explained := sound.explained_apply stage has
      cases reason <;> exact explained

end Sound

/-- Every state that some passes lead to from a history that was just read is sound. -/
theorem sound_run (sources : List Source) (stages : List Stage) :
    Sound (.ofSources sources) stages ((History.ofSources sources).run stages) := by
  induction stages using List.reverseRecOn with
  | nil =>
    refine ⟨?_, fun s member reason has => ?_⟩
    · exact (History.map_bare_ofSources sources).symm ▸ List.Sublist.refl _
    · rw [History.filter_of_mem_ofSources member] at has
      exact absurd has (Option.some_ne_none _).symm
  | append_singleton stages stage ih =>
    rw [History.run_concat]
    exact ih.apply stage

/-- Whatever passes run over a history that was read from migrations, in whatever order: the statements
are some of those that were read, in order; each has the index at which it was read as its position; a
reason once given stays the same in every later state that has the statement; and every reason is
explained by the full history and the applied policies. -/
theorem reachable_states (sources : List Source) (stages : List Stage) :
    let full := History.ofSources sources
    let h := full.run stages
    (h.statements.map Statement.bare).Sublist full.statements ∧
    (∀ (i : Nat) (s : Statement), full.statements[i]? = some s → s.position = i ∧ s.filter = none) ∧
    h.statements.Pairwise (·.position < ·.position) ∧
    (∀ s ∈ h.statements, ∀ reason, s.filter = some reason →
      ∀ (further : List Stage), ∀ s' ∈ (h.run further).statements, s'.position = s.position →
        s'.filter = some reason) ∧
    (∀ s ∈ h.statements, ∀ reason, s.filter = some reason → Explained full stages s reason) := by
  intro full h
  have sound : Sound full stages h := sound_run sources stages
  refine ⟨sound.read, fun i s => History.position_and_filter_of_getElem?_ofSources, sound.positions,
    fun s member reason has further s' after same => ?_, sound.explained⟩
  obtain ⟨before, memberBefore, read, stays⟩ := History.exists_of_mem_run after
  have place : before.position = s.position := by
    rw [← same]
    exact (congrArg Statement.position read).symm
  obtain rfl := sound.eq_of_position memberBefore member place
  exact stays reason has

example : ((History.ofSources [⟨"init", "CREATE TABLE a; DROP TABLE a;"⟩,
      ⟨"again", "CREATE TABLE a; DROP VIEW b; DROP TABLE a;"⟩]).run
        [.reconciliation "DROP VIEW b", .redundancy, .reconciliation "DROP TABLE a"]).statements =
    [⟨"CREATE TABLE a", "init", 0, some (.createDropped .table "a" 1)⟩,
      ⟨"CREATE TABLE a", "again", 2, some (.createDropped .table "a" 4)⟩] := by
  decide +kernel

end SchemaHistory
