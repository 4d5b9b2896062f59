import SchemaHistory.Proofs.Marking
import SchemaHistory.Proofs.Redundancy.Nearest

/-!
What resolving does to a single statement.

The two passes mark by the index of a statement in the list and search by its position. Here they are
shown to be one change of each statement: what a statement gets depends on the history before either
pass alone, and where both passes have a reason, the one about an object counts.
-/

namespace SchemaHistory.Redundancy.Pairing

variable {α : Type}

/-! ### The makers and the undoers -/

theorem mem_makers {pairing : Pairing α} {h : History} {i : Nat} {target : α} :
    (i, target) ∈ pairing.makers h ↔
      ∃ s, h.statements[i]? = some s ∧ s.filter = none ∧ pairing.made? s.text = some target := by
  rw [makers, List.mem_filterMap]
  constructor
  · rintro ⟨⟨s, j⟩, hs, made⟩
    cases filtered : s.isFiltered with
    | true => simp [filtered] at made
    | false =>
      simp only [filtered, Bool.false_eq_true, if_false, Option.map_eq_some_iff,
        Prod.mk.injEq] at made
      obtain ⟨_, made, rfl, rfl⟩ := made
      exact ⟨s, List.mem_zipIdx_iff_getElem?.1 hs, Statement.isFiltered_eq_false_iff.1 filtered, made⟩
  · rintro ⟨s, hs, unfiltered, made⟩
    refine ⟨(s, i), List.mem_zipIdx_iff_getElem?.2 hs, ?_⟩
    simp [Statement.isFiltered_eq_false_iff.2 unfiltered, made]

/-- Every statement is a maker at most once. -/
theorem nodup_makers (pairing : Pairing α) (h : History) :
    ((pairing.makers h).map (·.1)).Nodup := by
  have indices : (h.statements.zipIdx.map (·.2)).Nodup := by
    rw [List.zipIdx_map_snd]
    exact List.nodup_range'
  refine List.pairwise_map.2 ((List.pairwise_map.1 indices).filterMap _ ?_)
  -- a maker has the index of its statement
  intro (s, i) (t, j) differ (i', _) maker (j', _) other
  simp only [Option.ite_none_left_eq_some, Option.map_eq_some_iff, Prod.mk.injEq] at maker other
  obtain ⟨-, _, -, rfl, -⟩ := maker
  obtain ⟨-, _, -, rfl, -⟩ := other
  exact differ

/-- An unfiltered statement of a history undoes `target` at the position `q`. -/
def Undoes (pairing : Pairing α) (h : History) (target : α) (q : Nat) : Prop :=
  ∃ s ∈ h.statements, s.filter = none ∧ pairing.undone? s.text = some target ∧ s.position = q

theorem mem_undoers {pairing : Pairing α} {h : History} {target : α} {q : Nat} :
    (target, q) ∈ pairing.undoers h ↔ pairing.Undoes h target q := by
  simp only [undoers, History.kept, List.mem_filterMap, List.mem_filter, Bool.not_eq_true',
    Statement.isFiltered_eq_false_iff, Option.map_eq_some_iff, Prod.mk.injEq, Undoes]
  constructor
  · rintro ⟨s, ⟨hs, unfiltered⟩, _, undone, rfl, position⟩
    exact ⟨s, hs, unfiltered, undone, position⟩
  · rintro ⟨s, hs, unfiltered, undone, position⟩
    exact ⟨s, ⟨hs, unfiltered⟩, target, undone, rfl, position⟩

variable [BEq α]

/-! ### Marking by index -/

theorem statements_markMaker (pairing : Pairing α) (found : List (α × Nat)) (h : History)
    (maker : Nat × α) :
    (pairing.markMaker found h maker).statements = h.statements.modify maker.1 fun s =>
      s.orMark ((undoneAt found maker.2 s.position).map (pairing.reason maker.2)) := by
  apply List.ext_getElem?
  intro i
  rw [markMaker, List.getElem?_modify]
  by_cases hi : maker.1 = i
  · subst hi
    cases hs : h.statements[maker.1]? with
    | none => simp [hs]
    | some s =>
      cases undone : undoneAt found maker.2 s.position with
      | none => simp [undone, hs]
      | some position => simp [undone, hs, History.markAt, Statement.mark_eq_orMark]
  · simp only [hi, if_false, id_map']
    split
    · rw [History.markAt, List.getElem?_modify_ne _ _ hi]
    · rfl

/-- A run of marks leaves the statements at other indices alone. -/
theorem getElem?_foldl_markMaker_of_notMem (pairing : Pairing α) (found : List (α × Nat))
    (makers : List (Nat × α)) (h : History) {i : Nat} (hi : i ∉ makers.map (·.1)) :
    (makers.foldl (pairing.markMaker found) h).statements[i]? = h.statements[i]? := by
  induction makers generalizing h with
  | nil => rfl
  | cons maker rest ih =>
    simp only [List.map_cons, List.mem_cons, not_or] at hi
    rw [List.foldl_cons, ih _ hi.2, statements_markMaker, List.getElem?_modify_ne _ _ (Ne.symm hi.1)]

/-- A run of marks at different indices marks the statement at each of them once. -/
theorem getElem?_foldl_markMaker_of_mem (pairing : Pairing α) (found : List (α × Nat))
    {makers : List (Nat × α)} (distinct : (makers.map (·.1)).Nodup) (h : History) {i : Nat}
    {target : α} (hi : (i, target) ∈ makers) :
    (makers.foldl (pairing.markMaker found) h).statements[i]? = h.statements[i]?.map fun s =>
      s.orMark ((undoneAt found target s.position).map (pairing.reason target)) := by
  induction makers generalizing h with
  | nil => simp at hi
  | cons maker rest ih =>
    rw [List.map_cons, List.nodup_cons] at distinct
    rw [List.foldl_cons]
    rcases List.mem_cons.1 hi with rfl | later
    · rw [getElem?_foldl_markMaker_of_notMem _ _ _ _ distinct.1, statements_markMaker,
        List.getElem?_modify_eq, Option.map_eq_map]
    · have other : maker.1 ≠ i := by
        rintro rfl
        exact distinct.1 (List.mem_map.2 ⟨_, later, rfl⟩)
      rw [ih distinct.2 _ later, statements_markMaker, List.getElem?_modify_ne _ _ other]

/-! ### Whole passes -/

/-- The reason that a pass has for a statement, going by the history `seen`. -/
def reasonFor? (pairing : Pairing α) (seen : History) (s : Statement) : Option FilterReason := do
  let target ← pairing.made? s.text
  (undoneAt (pairing.undoers seen) target s.position).map (pairing.reason target)

theorem exists_of_reasonFor? {pairing : Pairing α} {seen : History} {s : Statement}
    {reason : FilterReason} (found : pairing.reasonFor? seen s = some reason) :
    ∃ target, pairing.made? s.text = some target ∧ ∃ position,
      undoneAt (pairing.undoers seen) target s.position = some position ∧
      reason = pairing.reason target position := by
  rw [reasonFor?, Option.bind_eq_bind, Option.bind_eq_some_iff] at found
  obtain ⟨target, made, found⟩ := found
  obtain ⟨position, cited, rfl⟩ := Option.map_eq_some_iff.1 found
  exact ⟨target, made, position, cited, rfl⟩

/-- A pass over marked statements that goes by what they were before: each of them gets the reason that
the pass has for it, unless it had one or has been given one since. -/
theorem statements_mark (pairing : Pairing α) {seen h : History}
    {given : Statement → Option FilterReason}
    (marked : h.statements = seen.statements.map fun s => s.orMark (given s)) :
    (pairing.mark seen h).statements =
      seen.statements.map fun s => s.orMark (given s <|> pairing.reasonFor? seen s) := by
  apply List.ext_getElem?
  intro i
  have current : h.statements[i]? = seen.statements[i]?.map fun s => s.orMark (given s) := by
    rw [marked, List.getElem?_map]
  rw [mark, List.getElem?_map]
  by_cases maker : ∃ target, (i, target) ∈ pairing.makers seen
  · obtain ⟨target, maker⟩ := maker
    obtain ⟨s, hs, -, made⟩ := mem_makers.1 maker
    rw [getElem?_foldl_markMaker_of_mem _ _ (pairing.nodup_makers seen) _ maker, current, hs]
    simp [reasonFor?, made]
  · have untouched : i ∉ (pairing.makers seen).map (·.1) := by
      rw [List.mem_map]
      rintro ⟨⟨_, target⟩, member, rfl⟩
      exact maker ⟨target, member⟩
    rw [getElem?_foldl_markMaker_of_notMem _ _ _ _ untouched, current]
    cases hs : seen.statements[i]? with
    | none => rfl
    | some s =>
      cases filtered : s.filter with
      | some reason => simp [Statement.orMark_of_some filtered]
      | none =>
        -- an unfiltered statement is left out of the makers only because it makes nothing
        have nothing : pairing.made? s.text = none := by
          by_contra made
          obtain ⟨target, made⟩ := Option.ne_none_iff_exists'.1 made
          exact maker ⟨target, mem_makers.2 ⟨s, hs, filtered, made⟩⟩
        simp [reasonFor?, nothing]

end SchemaHistory.Redundancy.Pairing

namespace SchemaHistory

/-- The reason that resolving has for a statement: the one about an object before the one about a
constraint. -/
def Redundancy.reasonFor? (h : History) (s : Statement) : Option FilterReason :=
  objects.reasonFor? h s <|> constraints.reasonFor? h s

theorem Redundancy.reasonFor?_eq_some_iff {h : History} {s : Statement} {reason : FilterReason} :
    reasonFor? h s = some reason ↔ objects.reasonFor? h s = some reason ∨
      objects.reasonFor? h s = none ∧ constraints.reasonFor? h s = some reason := by
  rw [reasonFor?, Option.orElse_apply, Option.orElse_eq_or, Option.or_eq_some_iff]

theorem Redundancy.reasonFor?_eq_none_iff {h : History} {s : Statement} :
    reasonFor? h s = none ↔ objects.reasonFor? h s = none ∧ constraints.reasonFor? h s = none := by
  rw [reasonFor?, Option.orElse_apply, Option.orElse_eq_or, Option.or_eq_none_iff]

/-- Resolving gives every statement the reason that it has for it, unless there is one already. -/
theorem History.statements_resolve (h : History) :
    h.resolve.statements = h.statements.map fun s => s.orMark (Redundancy.reasonFor? h s) := by
  have unmarked : h.statements = h.statements.map fun s => s.orMark none := by simp
  exact Redundancy.constraints.statements_mark (Redundancy.objects.statements_mark unmarked)

end SchemaHistory
