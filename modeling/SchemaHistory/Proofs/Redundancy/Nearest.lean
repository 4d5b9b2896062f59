import Mathlib.Order.Bounds.Basic
import SchemaHistory.Redundancy

/-!
The search for the nearest later position.

The search halves a window until one position is left. It looks at ascending positions only in a run, but
half of what it finds needs no order: whatever the list, a found position is in it and is greater than
the one searched from. In an ascending list it is the least such position.
-/

namespace SchemaHistory.Redundancy

/-- What the search knows of the window of `size` positions from `base` on: it starts with the list or
with a position that is not greater than `p`, and a position that is greater than `p`, or the end of the
list, is its last one or comes right after it. -/
structure Window (positions : Array Nat) (p base size : Nat) : Prop where
  nonempty : 0 < size
  inside : base + size ≤ positions.size
  start : base = 0 ∨ positions.getD base 0 ≤ p
  stop : base + size = positions.size ∨ p < positions.getD (base + size) 0 ∨
    p < positions.getD (base + size - 1) 0

/-- One look at the middle keeps what the search knows. -/
theorem Window.halve {positions : Array Nat} {p base size : Nat} (w : Window positions p base size)
    (large : ¬ size ≤ 1) :
    Window positions p
      (if positions.getD (base + size / 2) 0 ≤ p then base + size / 2 else base)
      (size - size / 2) := by
  obtain ⟨_, inside, start, stop⟩ := w
  split
  · rename_i small
    -- the end of the window does not move
    have same : base + size / 2 + (size - size / 2) = base + size := by omega
    exact ⟨by omega, by omega, Or.inr small, by rw [same]; exact stop⟩
  · rename_i great
    refine ⟨by omega, by omega, start, Or.inr ?_⟩
    -- the middle is the first position outside for an even size, and the last one inside for an odd size
    rcases Nat.mod_two_eq_zero_or_one size with even | odd
    · have middle : base + (size - size / 2) = base + size / 2 := by omega
      rw [middle]
      exact Or.inl (by omega)
    · have middle : base + (size - size / 2) - 1 = base + size / 2 := by omega
      rw [middle]
      exact Or.inr (by omega)

/-- The search ends with a window of one position. -/
theorem Window.narrow {positions : Array Nat} {p base size : Nat}
    (w : Window positions p base size) :
    Window positions p (Redundancy.narrow positions p base size) 1 := by
  fun_induction Redundancy.narrow positions p base size with
  | case1 base size small =>
    have one : size = 1 := by have := w.nonempty; omega
    rw [← one]
    exact w
  | case2 base size large middle ih => exact ih (w.halve large)

/-- The place that a window of one position gives splits the positions: the one there, if there is one,
is greater than `p`, and the one before it, if there is one, is not. -/
theorem Window.splits {positions : Array Nat} {p base : Nat} (w : Window positions p base 1) :
    ∃ k ≤ positions.size, (if positions.getD base 0 ≤ p then base + 1 else base) = k ∧
      (∀ q, positions[k]? = some q → p < q) ∧
      (∀ j q, k = j + 1 → positions[j]? = some q → q ≤ p) := by
  obtain ⟨_, inside, start, stop⟩ := w
  simp only [Array.getD_eq_getD_getElem?] at *
  split
  · rename_i small
    refine ⟨base + 1, inside, rfl, fun q hq => ?_, fun j q hj hq => ?_⟩
    · have : base + 1 < positions.size := (Array.getElem?_eq_some_iff.1 hq).1
      rcases stop with stop | stop | stop
      · omega
      · rwa [hq] at stop
      · rw [Nat.add_sub_cancel] at stop; omega
    · obtain rfl : base = j := by omega
      rwa [hq] at small
  · rename_i great
    -- only at the start of the list can the window be left of a position that is greater
    have first : base = 0 := start.resolve_right great
    refine ⟨base, by omega, rfl, fun q hq => ?_, fun j q hj _ => by omega⟩
    rw [hq] at great
    exact Nat.lt_of_not_le great

/-- The search finds what stands at a place of the list that splits it. -/
theorem exists_nextAfter_eq (l : List Nat) (p : Nat) :
    ∃ k ≤ l.length, nextAfter l p = l[k]? ∧ (∀ q, l[k]? = some q → p < q) ∧
      (∀ j q, k = j + 1 → l[j]? = some q → q ≤ p) := by
  rcases Nat.eq_zero_or_pos l.length with empty | pos
  · obtain rfl := List.eq_nil_of_length_eq_zero empty
    exact ⟨0, by simp, by simp [nextAfter], by simp, by simp⟩
  · have whole : Window l.toArray p 0 l.toArray.size :=
      ⟨pos, by simp, Or.inl rfl, Or.inl (by simp)⟩
    obtain ⟨k, hk, place, greater, before⟩ := whole.narrow.splits
    simp only [List.getElem?_toArray] at greater before
    refine ⟨k, hk, ?_, greater, before⟩
    simp only [nextAfter]
    rw [place, List.getElem?_toArray]

/-- What the search finds is in the list and greater than `p`, in whatever order the list is. -/
theorem mem_and_lt_of_nextAfter {l : List Nat} {p q : Nat} (h : nextAfter l p = some q) :
    q ∈ l ∧ p < q := by
  obtain ⟨k, _, found, greater, _⟩ := exists_nextAfter_eq l p
  rw [found] at h
  exact ⟨List.mem_of_getElem? h, greater q h⟩

/-- In an ascending list the search finds the least position that is greater than `p`. -/
theorem nextAfter_eq_some_iff {l : List Nat} (ascending : l.Pairwise (· ≤ ·)) {p q : Nat} :
    nextAfter l p = some q ↔ IsLeast {x | x ∈ l ∧ p < x} q := by
  obtain ⟨k, _, found, greater, before⟩ := exists_nextAfter_eq l p
  -- an element greater than `p` stands at `k` or after it
  have after : ∀ i x, l[i]? = some x → p < x → k ≤ i := by
    intro i x hi hx
    by_contra left
    obtain ⟨hlt, rfl⟩ := List.getElem?_eq_some_iff.1 hi
    have hk : k - 1 < l.length := by omega
    have le : l[k - 1] ≤ p := before (k - 1) _ (by omega) (List.getElem?_eq_getElem hk)
    rcases Nat.lt_or_ge i (k - 1) with hik | hik
    · have := List.pairwise_iff_getElem.1 ascending i (k - 1) hlt hk hik
      omega
    · obtain rfl : i = k - 1 := by omega
      omega
  have least : ∀ x, l[k]? = some x → IsLeast {x | x ∈ l ∧ p < x} x := by
    intro x hx
    refine ⟨⟨List.mem_of_getElem? hx, greater x hx⟩, fun y hy => ?_⟩
    obtain ⟨i, hi⟩ := List.mem_iff_getElem?.1 hy.1
    obtain ⟨hk, rfl⟩ := List.getElem?_eq_some_iff.1 hx
    obtain ⟨hlt, rfl⟩ := List.getElem?_eq_some_iff.1 hi
    rcases Nat.lt_or_eq_of_le (after i _ hi hy.2) with hki | rfl
    · exact List.pairwise_iff_getElem.1 ascending k i hk hlt hki
    · exact Nat.le_refl _
  rw [found]
  refine ⟨least q, fun h => ?_⟩
  obtain ⟨i, hi⟩ := List.mem_iff_getElem?.1 h.1.1
  have hk : k < l.length :=
    Nat.lt_of_le_of_lt (after i q hi h.1.2) (List.getElem?_eq_some_iff.1 hi).1
  rw [List.getElem?_eq_getElem hk]
  exact congrArg some ((least _ (List.getElem?_eq_getElem hk)).unique h)

end SchemaHistory.Redundancy
