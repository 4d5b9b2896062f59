import SchemaHistory.Proofs.Files.Parent

/-!
The path without its last part, told by the steps of the two.

The segments behind the first one that mean nothing are passed over, so that the last part is the last step.
A path that is one step from the working directory is left empty, and one without steps has no last part.
-/

namespace SchemaHistory

open FileSystem

namespace Path

variable {p : Path} {l before : List Bytes} {last : Bytes}

/-! ### Segments without a meaning at the end -/

theorem filter_dropTrivialEnd (l : List Bytes) :
    (dropTrivialEnd l).filter (fun s => !isTrivial s) = l.filter fun s => !isTrivial s := by
  have trivial : (l.reverse.takeWhile isTrivial).filter (fun s => !isTrivial s) = [] :=
    List.filter_eq_nil_iff.2 fun s member => by
      rw [List.all_eq_true.1 List.all_takeWhile s member]
      exact Bool.false_ne_true
  have same : (l.reverse.dropWhile isTrivial).filter (fun s => !isTrivial s) =
      l.reverse.filter fun s => !isTrivial s := by
    conv_rhs => rw [← List.takeWhile_append_dropWhile (p := isTrivial) (l := l.reverse)]
    rw [List.filter_append, trivial, List.nil_append]
  rw [dropTrivialEnd, List.filter_reverse, same, List.filter_reverse, List.reverse_reverse]

/-- The last segment with a meaning is a step, and the others are the segments before it. -/
theorem filter_of_dropTrivialEnd (ends : (dropTrivialEnd l).reverse = last :: before) :
    l.filter (fun s => !isTrivial s) = before.reverse.filter (fun s => !isTrivial s) ++ [last] := by
  have step : isTrivial last = false := by
    have first := List.head?_dropWhile_not isTrivial l.reverse
    rw [dropTrivialEnd, List.reverse_reverse] at ends
    rw [ends] at first
    simpa using first
  rw [← filter_dropTrivialEnd, List.reverse_eq_cons_iff.1 ends, List.filter_append, List.filter_singleton,
    step]
  rfl

/-- The last segment that is not empty is the last step, if it has a meaning. -/
theorem steps_of_dropWhile_isEmpty (ends : p.segments.reverse.dropWhile (·.isEmpty) = last :: before)
    (step : isTrivial last = false) : p.steps = before.reverse.filter (fun s => !isTrivial s) ++ [last] := by
  have behind : (p.segments.reverse.takeWhile (·.isEmpty)).filter (fun s => !isTrivial s) = [] :=
    List.filter_eq_nil_iff.2 fun s member => by
      have empty := List.all_eq_true.1 List.all_takeWhile s member
      simp [isTrivial, empty]
  have whole := List.takeWhile_append_dropWhile (p := (·.isEmpty)) (l := p.segments.reverse)
  rw [ends] at whole
  rw [steps, ← List.reverse_reverse p.segments, ← whole, List.filter_reverse, List.filter_append, behind,
    List.nil_append, List.filter_cons_of_pos (by simp [step]), List.reverse_cons, List.filter_reverse]

/-- The steps of a path that is put together again from segments. -/
theorem steps_ofSegments {first : Bytes} (whole : ∀ s ∈ first :: l, slash ∉ s) :
    (ofSegments (first :: l)).steps = (first :: l).filter fun s => !isTrivial s := by
  rw [steps, segments, ofSegments, pieces_intercalate (List.cons_ne_nil _ _) whole]

theorem isAbsolute_of_notMem {b : Bytes} (whole : slash ∉ b) : isAbsolute ⟨b⟩ = false := by
  rw [isAbsolute, beq_eq_false_iff_ne]
  exact fun first => whole (List.mem_of_mem_head? first)

theorem isAbsolute_ofSegments {first s : Bytes} (whole : slash ∉ first) :
    (ofSegments (first :: s :: l)).isAbsolute = first.isEmpty := by
  rw [isAbsolute, ofSegments, List.intercalate_cons_cons]
  cases first with
  | nil => rfl
  | cons b rest =>
    have other : b ≠ slash := fun same => whole (same ▸ List.mem_cons_self)
    simpa using other

/-- The first segment of a path and the segments behind it. -/
theorem exists_segments_eq_cons (p : Path) : ∃ first rest, p.segments = first :: rest ∧
    (∀ s ∈ first :: rest, slash ∉ s) ∧ p.isAbsolute = (first.isEmpty && !rest.isEmpty) := by
  obtain ⟨first, rest, whole⟩ := exists_pieces_eq_cons (· == slash) p.bytes
  have absent : ∀ s ∈ first :: rest, slash ∉ s := fun s member => notMem_of_mem_pieces (whole ▸ member)
  refine ⟨first, rest, whole, absent, ?_⟩
  have again := ofSegments_segments p
  rw [segments, whole] at again
  rw [← again]
  cases rest with
  | nil =>
    rw [ofSegments, List.intercalate_singleton, isAbsolute_of_notMem (absent first List.mem_cons_self)]
    exact (Bool.and_false _).symm
  | cons s rest => simp [isAbsolute_ofSegments (absent first List.mem_cons_self)]

/-- A path without steps has nothing before its last part. -/
theorem parent?_of_steps_eq_nil (none : p.steps = []) : p.parent? = .none ∨ p.parent? = some ⟨[]⟩ := by
  obtain ⟨first, rest, whole, -⟩ := p.exists_segments_eq_cons
  rw [parent?, whole]
  dsimp only
  cases ends : (dropTrivialEnd rest).reverse with
  | nil =>
    cases first with
    | nil => exact Or.inl rfl
    | cons => exact Or.inr rfl
  | cons last before =>
    rw [steps, whole, ← List.singleton_append, List.filter_append, filter_of_dropTrivialEnd ends] at none
    simp at none

/-- A part that is left before the last one. -/
theorem mem_of_mem_dropTrivialEnd {s : Bytes} (member : s ∈ dropTrivialEnd l) : s ∈ l :=
  List.mem_reverse.1 ((List.dropWhile_sublist _).subset (List.mem_reverse.1 member))

/-- The path without its last part has all steps but the last one, or there is nothing before the
last part. -/
theorem parent?_of_steps_eq_concat (whole : p.steps = before ++ [last]) :
    p.parent? = some ⟨[]⟩ ∧ before = [] ∧ p.isAbsolute = false ∨
    ∃ parent, p.parent? = some parent ∧ parent.isEmpty = false ∧ parent.steps = before ∧
      parent.isAbsolute = p.isAbsolute := by
  obtain ⟨first, rest, split, absent, absolute⟩ := p.exists_segments_eq_cons
  rw [steps, split, ← List.singleton_append, List.filter_append] at whole
  rw [parent?, split]
  dsimp only
  cases ends : (dropTrivialEnd rest).reverse with
  | nil =>
    have none : rest.filter (fun s => !isTrivial s) = [] := by
      rw [← filter_dropTrivialEnd, List.reverse_eq_nil_iff.1 ends]
      rfl
    rw [none, List.append_nil, List.filter_singleton] at whole
    refine Or.inl ?_
    cases first with
    | nil => simp [isTrivial] at whole
    | cons b name =>
      refine ⟨rfl, ?_, absolute⟩
      cases step : isTrivial (b :: name) with
      | true => simp [step] at whole
      | false =>
        rw [step, ← List.nil_append (bif !false then [b :: name] else [])] at whole
        exact (List.append_inj' whole rfl).1.symm
  | cons final middle =>
    refine Or.inr ?_
    rw [filter_of_dropTrivialEnd ends, ← List.append_assoc] at whole
    obtain ⟨rfl, -⟩ := List.append_inj' whole rfl
    have later : rest ≠ [] := by
      rintro rfl
      exact List.cons_ne_nil _ _ ends.symm
    have within : ∀ s ∈ dropTrivialEnd middle.reverse, s ∈ rest := fun s member =>
      mem_of_mem_dropTrivialEnd (List.reverse_eq_cons_iff.1 ends ▸
        List.mem_append_left _ (mem_of_mem_dropTrivialEnd member))
    rw [List.forall_mem_cons] at absent
    have rooted : p.isAbsolute = first.isEmpty := by simp [absolute, later]
    rw [← filter_dropTrivialEnd middle.reverse]
    dsimp only
    cases left : dropTrivialEnd middle.reverse with
    | nil =>
      cases first with
      | nil => exact ⟨⟨[slash]⟩, rfl, rfl, rfl, rooted.symm⟩
      | cons b name =>
        refine ⟨⟨b :: name⟩, rfl, rfl, ?_, ?_⟩
        · rw [steps, segments, pieces_of_notMem absent.1]
          exact (List.append_nil _).symm
        · rw [rooted, isAbsolute_of_notMem absent.1]
          rfl
    | cons s kept =>
      have whole : ∀ k ∈ first :: s :: kept, slash ∉ k :=
        List.forall_mem_cons.2 ⟨absent.1, fun k member => absent.2 k (within k (left ▸ member))⟩
      refine ⟨_, rfl, ?_, ?_, ?_⟩
      · simp [ofSegments, isEmpty, List.intercalate_cons_cons]
      · rw [steps_ofSegments whole]
        exact List.filter_append (p := _) [first] (s :: kept)
      · rw [isAbsolute_ofSegments absent.1, rooted]

end Path

end SchemaHistory
