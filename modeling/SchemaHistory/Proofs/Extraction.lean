import SchemaHistory.Proofs.Marking

/-!
The history as it is read: no statement has a reason, and each knows its place.
-/

namespace SchemaHistory

/-- The statement with its place counted behind a number of others. -/
def Statement.behind (n : Nat) (s : Statement) : Statement := { s with position := n + s.position }

namespace History

/-- A statement of a history that was just read has its index as its position, and no reason. -/
theorem position_and_filter_of_getElem?_ofSources {sources : List Source} {i : Nat} {s : Statement}
    (h : (ofSources sources).statements[i]? = some s) : s.position = i ∧ s.filter = none := by
  simp only [ofSources, List.getElem?_map, List.getElem?_zipIdx, Option.map_eq_some_iff] at h
  obtain ⟨_, ⟨_, _, rfl⟩, rfl⟩ := h
  exact ⟨Nat.zero_add i, rfl⟩

theorem position_of_getElem?_ofSources {sources : List Source} {i : Nat} {s : Statement}
    (h : (ofSources sources).statements[i]? = some s) : s.position = i :=
  (position_and_filter_of_getElem?_ofSources h).1

theorem filter_of_mem_ofSources {sources : List Source} {s : Statement}
    (h : s ∈ (ofSources sources).statements) : s.filter = none := by
  obtain ⟨_, hi⟩ := List.mem_iff_getElem?.1 h
  exact (position_and_filter_of_getElem?_ofSources hi).2

/-- A statement that was just read stands in the list where its position says. -/
theorem getElem?_position_of_mem_ofSources {sources : List Source} {s : Statement}
    (h : s ∈ (ofSources sources).statements) :
    (ofSources sources).statements[s.position]? = some s := by
  obtain ⟨_, hi⟩ := List.mem_iff_getElem?.1 h
  rwa [position_of_getElem?_ofSources hi]

/-- The positions of a history that was just read rise along the list. -/
theorem positions_ofSources (sources : List Source) :
    (ofSources sources).statements.Pairwise (·.position < ·.position) := by
  rw [List.pairwise_iff_getElem]
  intro i j hi hj less
  rwa [position_of_getElem?_ofSources (List.getElem?_eq_getElem hi),
    position_of_getElem?_ofSources (List.getElem?_eq_getElem hj)]

theorem position_lt_size_of_mem_ofSources {sources : List Source} {s : Statement}
    (h : s ∈ (ofSources sources).statements) : s.position < (ofSources sources).size :=
  (List.getElem?_eq_some_iff.1 (getElem?_position_of_mem_ofSources h)).1

/-- Migrations that are read behind others add their statements, at places that go on from there. -/
theorem ofSources_append (earlier later : List Source) :
    (ofSources (earlier ++ later)).statements = (ofSources earlier).statements ++
      (ofSources later).statements.map (Statement.behind (ofSources earlier).size) := by
  simp only [ofSources, size, List.flatMap_append, List.zipIdx_append, List.map_append, List.length_map,
    List.length_zipIdx, List.map_map]
  rw [List.zipIdx_eq_map_add (l := List.flatMap _ later), List.map_map, Nat.zero_add]
  rfl

/-- There is no reason to leave out of a history that was just read. -/
theorem map_bare_ofSources (sources : List Source) :
    (ofSources sources).statements.map Statement.bare = (ofSources sources).statements := by
  have same : ∀ s ∈ (ofSources sources).statements, s.bare = id s := fun s member =>
    Statement.bare_of_none (filter_of_mem_ofSources member)
  rw [List.map_congr_left same, List.map_id]

end History

end SchemaHistory
