import Mathlib.Data.List.Infix
import SchemaHistory.Text.Blank

/-!
Where a mark stands in a text, and what is left and right of the first place.

A character that is no part of the mark divides the question: the mark stands before that character, or
after it, or nowhere.
-/

namespace SchemaHistory

section Infix

variable {α : Type} {l a b : List α} {x : α}

theorem prefix_append_cons_iff (outside : x ∉ l) : l <+: a ++ x :: b ↔ l <+: a := by
  constructor
  · rintro ⟨rest, split⟩
    rcases List.append_eq_append_iff.1 split with ⟨left, rfl, -⟩ | ⟨extra, rfl, next⟩
    · exact List.prefix_append l left
    · -- what is left of `l` behind `a` would start with `x`
      rcases List.append_eq_cons_iff.1 next.symm with ⟨rfl, -⟩ | ⟨_, rfl, -⟩
      · simp
      · simp at outside
  · exact fun start => start.trans (List.prefix_append a _)

theorem infix_append_cons_iff (outside : x ∉ l) : l <:+: a ++ x :: b ↔ l <:+: a ∨ l <:+: b := by
  constructor
  · intro inside
    rcases List.infix_append_iff.1 inside with inA | inB | ⟨l₁, l₂, rfl, ends, starts⟩
    · exact Or.inl inA
    · rcases List.infix_cons_iff.1 inB with start | inB
      · left
        rw [List.eq_nil_of_prefix_nil ((prefix_append_cons_iff (a := []) outside).1 start)]
        exact List.nil_infix
      · exact Or.inr inB
    · left
      have : l₂ = [] := by
        rcases List.prefix_cons_iff.1 starts with empty | ⟨_, rfl, -⟩
        · exact empty
        · simp at outside
      rw [this, List.append_nil]
      exact ends.isInfix
  · rintro (inA | inB)
    · exact inA.trans (List.infix_append_left ..)
    · exact inB.trans ((List.suffix_cons x b).isInfix.trans List.infix_append_right)

/-- Without their first elements, a suffix of a list is still one. -/
theorem tail_suffix_tail (ends : a <:+ b) : a.tail <:+ b.tail := by
  obtain ⟨before, rfl⟩ := ends
  cases before with
  | nil => exact List.suffix_rfl
  | cons => exact (List.tail_suffix a).trans (List.suffix_append ..)

/-- A list starts with one run of elements of a kind, up to the first that is not of it. -/
theorem eq_of_runs {p : α → Bool} {a' b' : List α} (same : a ++ a' = b ++ b')
    (run : ∀ x ∈ a, p x = true) (stops : ∀ x ∈ a'.head?, p x = false)
    (run' : ∀ x ∈ b, p x = true) (stops' : ∀ x ∈ b'.head?, p x = false) : a = b ∧ a' = b' := by
  have taken : ∀ {l l' : List α}, (∀ x ∈ l, p x = true) → (∀ x ∈ l'.head?, p x = false) →
      (l ++ l').takeWhile p = l := by
    intro l l' run stops
    rw [List.takeWhile_append_of_pos run]
    cases l' with
    | nil => simp
    | cons x _ => simp [stops x rfl]
  have first : a = b := by rw [← taken run stops, same, taken run' stops']
  exact ⟨first, List.append_cancel_left (first ▸ same)⟩

end Infix

variable {mark cs before after : List Char} {x y : Char}

/-- Nothing is cut where the mark does not stand. -/
theorem cutAt_eq_none_iff (nonempty : mark ≠ []) : cutAt mark cs = none ↔ ¬ mark <:+: cs := by
  induction cs with
  | nil =>
    rw [List.infix_nil]
    simp [cutAt, nonempty]
  | cons c rest ih =>
    rw [cutAt, List.infix_cons_iff, ← List.isPrefixOf_iff_prefix]
    cases mark.isPrefixOf (c :: rest) with
    | true => simp
    | false => simp [ih]

/-- Cutting takes out the mark and nothing else. -/
theorem append_of_cutAt (found : cutAt mark cs = some (before, after)) :
    before ++ (mark ++ after) = cs := by
  induction cs generalizing before with
  | nil =>
    cases mark with
    | nil =>
      obtain ⟨rfl, rfl⟩ := Prod.mk.inj (Option.some.inj found)
      rfl
    | cons => simp [cutAt] at found
  | cons c rest ih =>
    rw [cutAt] at found
    split at found
    · rename_i here
      obtain ⟨rfl, rfl⟩ := Prod.mk.inj (Option.some.inj found)
      exact List.prefix_iff_eq_append.1 (List.isPrefixOf_iff_prefix.1 here)
    · obtain ⟨⟨u, v⟩, later, split⟩ := Option.map_eq_some_iff.1 found
      obtain ⟨rfl, rfl⟩ := Prod.mk.inj split
      rw [List.cons_append, ih later]

/-- The mark is not in what stands before its first place. -/
theorem not_infix_of_cutAt (nonempty : mark ≠ []) (found : cutAt mark cs = some (before, after)) :
    ¬ mark <:+: before := by
  induction cs generalizing before with
  | nil => simp [cutAt, nonempty] at found
  | cons c rest ih =>
    rw [cutAt] at found
    split at found
    · obtain ⟨rfl, -⟩ := Prod.mk.inj (Option.some.inj found)
      simpa using nonempty
    · rename_i missing
      obtain ⟨⟨u, v⟩, later, split⟩ := Option.map_eq_some_iff.1 found
      obtain ⟨rfl, rfl⟩ := Prod.mk.inj split
      rw [List.infix_cons_iff, not_or]
      refine ⟨fun start => missing (List.isPrefixOf_iff_prefix.2 (start.trans ?_)), ih later⟩
      exact (List.prefix_cons_inj c).2 ⟨_, append_of_cutAt later⟩

/-- Before a character that is no part of it, the mark is not there, and it is looked for behind it. -/
theorem cutAt_append_cons (outside : x ∉ mark) (absent : ¬ mark <:+: before) :
    cutAt mark (before ++ x :: after) =
      (cutAt mark after).map fun (u, v) => (before ++ x :: u, v) := by
  induction before with
  | nil =>
    have missing : mark.isPrefixOf (x :: after) = false := by
      rw [Bool.eq_false_iff, Ne, List.isPrefixOf_iff_prefix]
      exact fun start => absent ((prefix_append_cons_iff outside).1 start).isInfix
    rw [List.nil_append, cutAt, missing]
    rfl
  | cons c rest ih =>
    rw [List.infix_cons_iff, not_or] at absent
    have missing : mark.isPrefixOf (c :: (rest ++ x :: after)) = false := by
      rw [Bool.eq_false_iff, Ne, List.isPrefixOf_iff_prefix]
      exact fun start => absent.1 ((prefix_append_cons_iff (a := c :: rest) outside).1 start)
    rw [List.cons_append, cutAt, missing, ih absent.2, Option.map_map]
    rfl

/-- A mark of two different characters does not start inside what it follows. -/
theorem not_prefix_append_mark {c : Char} (differ : x ≠ y) (absent : ¬ [x, y] <+: c :: before) :
    ¬ [x, y] <+: c :: (before ++ x :: y :: after) := by
  rw [List.cons_prefix_cons] at absent ⊢
  rintro ⟨rfl, start⟩
  -- the second character of the mark would be the first of `before`, or the first of the mark
  cases before with
  | nil => exact differ (List.cons_prefix_cons.1 start).1.symm
  | cons d before =>
    obtain ⟨rfl, -⟩ := List.cons_prefix_cons.1 start
    exact absent ⟨rfl, by simp⟩

/-- A mark of two different characters is found at its first place. -/
theorem cutAt_append_mark (differ : x ≠ y) (absent : ¬ [x, y] <:+: before) :
    cutAt [x, y] (before ++ x :: y :: after) = some (before, after) := by
  induction before with
  | nil => simp [cutAt]
  | cons c rest ih =>
    rw [List.infix_cons_iff, not_or] at absent
    have missing : ([x, y] : List Char).isPrefixOf (c :: (rest ++ x :: y :: after)) = false := by
      rw [Bool.eq_false_iff, Ne, List.isPrefixOf_iff_prefix]
      exact not_prefix_append_mark differ absent.1
    rw [List.cons_append, cutAt, missing, ih absent.2]
    rfl

end SchemaHistory
