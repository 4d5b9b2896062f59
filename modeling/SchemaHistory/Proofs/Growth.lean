import SchemaHistory.Proofs.Redundancy.Citation

/-!
A history to which later migrations are added.

The statements that were there stay where they are, and whatever was filtered stays filtered. What is added
stands behind all that was there, so that the nearest dropping of an object that was found before is the
nearest one still. Only one reason can give way: where the constraint of a statement was dropped, but not
its object, a dropping of the object that is added counts for more.
-/

namespace SchemaHistory

namespace History

variable (earlier later : List Source) {policy : Policy}

/-- The statements that later migrations add to a history. -/
def addition : List Statement :=
  (ofSources later).statements.map (Statement.behind (ofSources earlier).size)

variable {earlier later}

theorem size_le_position_of_mem_addition {t : Statement} (member : t ∈ addition earlier later) :
    (ofSources earlier).size ≤ t.position := by
  obtain ⟨read, -, rfl⟩ := List.mem_map.1 member
  exact Nat.le_add_right _ _

/-! ### What undoes a statement in the longer history -/

section Pairing

variable {α : Type} {pairing : Redundancy.Pairing α} {target : α} {q : Nat}

/-- What undoes something in the longer history did so in the shorter one, or it was added. -/
theorem undoes_append_iff :
    pairing.Undoes ((ofSources (earlier ++ later)).applyPolicy policy) target q ↔
      pairing.Undoes ((ofSources earlier).applyPolicy policy) target q ∨
        ∃ t ∈ addition earlier later, policy.evaluate t.text = none ∧
          pairing.undone? t.text = some target ∧ t.position = q := by
  rw [undoes_applyPolicy_iff, undoes_applyPolicy_iff, ofSources_append, ← addition]
  simp only [List.mem_append, or_and_right, exists_or]

theorem lt_size_of_undoes (undoes : pairing.Undoes ((ofSources earlier).applyPolicy policy) target q) :
    q < (ofSources earlier).size := by
  obtain ⟨t, member, -, -, rfl⟩ := undoes_applyPolicy_iff.1 undoes
  exact position_lt_size_of_mem_ofSources member

/-- The nearest position stays the nearest, since all that is added is further away. -/
theorem isLeast_undoes_append {p : Nat}
    (nearest : IsLeast {x | p < x ∧ pairing.Undoes ((ofSources earlier).applyPolicy policy) target x} q) :
    IsLeast {x | p < x ∧ pairing.Undoes ((ofSources (earlier ++ later)).applyPolicy policy) target x} q := by
  obtain ⟨⟨after, undoes⟩, least⟩ := nearest
  refine ⟨⟨after, undoes_append_iff.2 (Or.inl undoes)⟩, ?_⟩
  rintro x ⟨afterX, undoesX⟩
  rcases undoes_append_iff.1 undoesX with before | ⟨t, member, -, -, rfl⟩
  · exact least ⟨afterX, before⟩
  · exact (lt_size_of_undoes undoes).le.trans (size_le_position_of_mem_addition member)

variable [BEq α] [LawfulBEq α] {s : Statement} {reason : FilterReason}

/-- A reason that a pass had it has still. -/
theorem reasonFor?_append_of_some
    (found : pairing.reasonFor? ((ofSources earlier).applyPolicy policy) s = some reason) :
    pairing.reasonFor? ((ofSources (earlier ++ later)).applyPolicy policy) s = some reason := by
  rw [Redundancy.Pairing.reasonFor?_eq_some_iff ascending_applyPolicy] at found ⊢
  obtain ⟨target, q, made, nearest, rfl⟩ := found
  exact ⟨target, q, made, isLeast_undoes_append nearest, rfl⟩

/-- A reason that a pass had not cites a statement that was added. -/
theorem exists_addition_of_reasonFor?
    (nothing : pairing.reasonFor? ((ofSources earlier).applyPolicy policy) s = none)
    (found : pairing.reasonFor? ((ofSources (earlier ++ later)).applyPolicy policy) s = some reason) :
    ∃ target, ∃ t ∈ addition earlier later, pairing.made? s.text = some target ∧
      pairing.undone? t.text = some target ∧ reason = pairing.reason target t.position := by
  obtain ⟨target, q, rfl, made, after, undoes⟩ := Redundancy.Pairing.exists_undoes_of_reasonFor? found
  rw [Redundancy.Pairing.reasonFor?_eq_none_iff ascending_applyPolicy] at nothing
  rcases undoes_append_iff.1 undoes with before | ⟨t, member, -, undone, rfl⟩
  · exact absurd ⟨target, q, made, after, before⟩ nothing
  · exact ⟨target, t, member, made, undone, rfl⟩

end Pairing

end History

/-! ### What becomes of reasons -/

/-- What may become of the reason of a statement when the statements `added` are read behind it: it stays the
same, a dropping of the object among them takes the place of a dropping of the constraint, or a statement
that was kept is filtered because of one of them. -/
inductive Revised (added : List Statement) : Option FilterReason → Option FilterReason → Prop where
  | same (reason? : Option FilterReason) : Revised added reason? reason?
  | object {table constraint name : String} {kind : ObjectKind} {d : Nat} {t : Statement}
      (member : t ∈ added) (dropped : Sql.dropped? t.text = some ⟨kind, name⟩) :
      Revised added (some (.constraintDropped table constraint d))
        (some (.createDropped kind name t.position))
  | filtered {reason : FilterReason} {t : Statement} (member : t ∈ added)
      (cites : reason.citedPosition? = some t.position) : Revised added none (some reason)

namespace Revised

variable {added added' : List Statement} {before after : Option FilterReason}

/-- What was filtered stays filtered. -/
theorem isSome (revised : Revised added before after) (had : before.isSome = true) :
    after.isSome = true := by
  cases revised with
  | same => exact had
  | object => rfl
  | filtered => rfl

/-- It does not matter what else is known of the added statements than their texts and places. -/
theorem congr (revised : Revised added before after)
    (found : ∀ t ∈ added, ∃ t' ∈ added', t'.text = t.text ∧ t'.position = t.position) :
    Revised added' before after := by
  cases revised with
  | same => exact .same before
  | object member dropped =>
    obtain ⟨t', member', text, position⟩ := found _ member
    rw [← position]
    exact .object member' (text ▸ dropped)
  | filtered member cites =>
    obtain ⟨t', member', text, position⟩ := found _ member
    exact .filtered member' (position ▸ cites)

end Revised

namespace History

variable {earlier later : List Source} {policy : Policy}

/-- The reason that resolving has for a statement is revised at most. -/
theorem revised_reasonFor? (s : Statement) : Revised (addition earlier later)
    (Redundancy.reasonFor? ((ofSources earlier).applyPolicy policy) s)
    (Redundancy.reasonFor? ((ofSources (earlier ++ later)).applyPolicy policy) s) := by
  simp only [Redundancy.reasonFor?, Option.orElse_apply, Option.orElse_eq_or]
  cases object : Redundancy.objects.reasonFor? ((ofSources earlier).applyPolicy policy) s with
  | some reason =>
    rw [reasonFor?_append_of_some object]
    exact .same (some reason)
  | none =>
    cases object' : Redundancy.objects.reasonFor? ((ofSources (earlier ++ later)).applyPolicy policy) s with
    | some reason =>
      -- the object is dropped only by what was added
      obtain ⟨target, t, member, -, dropped, rfl⟩ := exists_addition_of_reasonFor? object object'
      cases constraint : Redundancy.constraints.reasonFor? ((ofSources earlier).applyPolicy policy) s with
      | none => exact .filtered member rfl
      | some reason =>
        obtain ⟨_, d, rfl, -⟩ := Redundancy.Pairing.exists_undoes_of_reasonFor? constraint
        exact .object member dropped
    | none =>
      cases constraint : Redundancy.constraints.reasonFor? ((ofSources earlier).applyPolicy policy) s with
      | some reason =>
        rw [reasonFor?_append_of_some constraint]
        exact .same (some reason)
      | none =>
        cases constraint' : Redundancy.constraints.reasonFor?
            ((ofSources (earlier ++ later)).applyPolicy policy) s with
        | none => exact .same none
        | some reason =>
          obtain ⟨target, t, member, -, -, rfl⟩ := exists_addition_of_reasonFor? constraint constraint'
          exact .filtered member rfl

/-- So is the verdict on it: a reason of the policy does not depend on other statements. -/
theorem revised_verdict? (s : Statement) : Revised (addition earlier later)
    (verdict? earlier policy s) (verdict? (earlier ++ later) policy s) := by
  rw [verdict?, verdict?]
  cases policy.reasonFor s.text with
  | some reason => exact .same (some reason)
  | none => exact revised_reasonFor? s

/-- A filtered history starts with the statements that were there, each with its verdict, -/
theorem take_ofFiltered_append :
    (ofFiltered (earlier ++ later) policy).statements.take (ofFiltered earlier policy).size =
      (ofSources earlier).statements.map fun s => s.orMark (verdict? (earlier ++ later) policy s) := by
  rw [size, statements_ofFiltered, statements_ofFiltered, ofSources_append, List.map_append,
    List.length_map]
  exact List.take_left' (List.length_map _)

/-- and goes on with those that are added. -/
theorem drop_ofFiltered_append :
    (ofFiltered (earlier ++ later) policy).statements.drop (ofFiltered earlier policy).size =
      (addition earlier later).map fun s => s.orMark (verdict? (earlier ++ later) policy s) := by
  rw [size, statements_ofFiltered, statements_ofFiltered, ofSources_append, List.map_append,
    List.length_map]
  exact List.drop_left' (List.length_map _)

end History

/-- A statement of a filtered history, and the same statement when the statements `added` are read behind: it
has the same text, source and place, and is filtered if it was. -/
structure Continues (added : List Statement) (s s' : Statement) : Prop where
  text : s'.text = s.text
  source : s'.source = s.source
  position : s'.position = s.position
  stays : s.isFiltered = true → s'.isFiltered = true
  reason : Revised added s.filter s'.filter

/-- Adding later migrations leaves the statements of a filtered history in place and filters again all that
was filtered, for the same reason but where the object of a statement is dropped by what was added and only
its constraint was dropped before. What was added are the statements of the later migrations. -/
theorem filtered_stays_filtered (earlier later : List Source) (policy : Policy) :
    let before := History.ofFiltered earlier policy
    let after := History.ofFiltered (earlier ++ later) policy
    let added := after.statements.drop before.size
    List.Forall₂ (Continues added) before.statements (after.statements.take before.size) ∧
      added.map (fun s => (s.text, s.source)) =
        (History.ofSources later).statements.map fun s => (s.text, s.source) := by
  intro before after added
  have behind : added = (History.addition earlier later).map fun s =>
      s.orMark (History.verdict? (earlier ++ later) policy s) := History.drop_ofFiltered_append
  constructor
  · rw [History.take_ofFiltered_append, History.statements_ofFiltered, List.forall₂_map_left_iff,
      List.forall₂_map_right_iff, List.forall₂_same]
    intro s member
    have unfiltered := History.filter_of_mem_ofSources member
    have revised : Revised added (s.orMark (History.verdict? earlier policy s)).filter
        (s.orMark (History.verdict? (earlier ++ later) policy s)).filter := by
      rw [Statement.filter_orMark_of_none unfiltered, Statement.filter_orMark_of_none unfiltered, behind]
      exact (History.revised_verdict? s).congr fun t among => ⟨_, List.mem_map_of_mem among, rfl, rfl⟩
    refine ⟨?_, ?_, ?_, revised.isSome, revised⟩
    · rw [Statement.text_orMark, Statement.text_orMark]
    · rw [Statement.source_orMark, Statement.source_orMark]
    · rw [Statement.position_orMark, Statement.position_orMark]
  · rw [behind, History.addition, List.map_map, List.map_map]
    rfl

/-- A statement that creates a table and adds a constraint changes its reason when the table is dropped. -/
example :
    let earlier : List Source := [⟨"init", "CREATE TABLE a AS SELECT 'ALTER TABLE b ADD CONSTRAINT c';"⟩,
      ⟨"clean", "ALTER TABLE b DROP CONSTRAINT c;"⟩]
    ((History.ofFiltered earlier ⟨[]⟩).statements.map (·.filter),
      (History.ofFiltered (earlier ++ [⟨"later", "DROP TABLE a;"⟩]) ⟨[]⟩).statements.map (·.filter)) =
    ([some (.constraintDropped "b" "c" 1), none], [some (.createDropped .table "a" 2), none, none]) := by
  decide +kernel

end SchemaHistory
