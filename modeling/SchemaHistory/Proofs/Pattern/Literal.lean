import Mathlib.Algebra.GroupWithZero.Nat
import SchemaHistory.Pattern.Reader
import SchemaHistory.Proofs.Pattern.Found
import SchemaHistory.Proofs.Text.Folding
import SchemaHistory.Proofs.Text.Ranges

/-!
Patterns that are words.

A word without characters that mean something in patterns is read as the row of its letters, each in all its
cases. It is found where the same letters stand one by one.
-/

namespace SchemaHistory.Pattern

variable {w u cs : List Char} {c d : Char}

/-- The pattern of a word, whatever the case of its letters. -/
def literal (w : List Char) : Pattern := sequence (w.map fun c => set (letterSet anyCase c))

/-! ### Where a word is found -/

theorem contains_letterSet :
    (letterSet anyCase c).contains d = true ↔ foldCode d.toNat = foldCode c.toNat := by
  have cases : letterSet anyCase c = .ofRanges ((casesOf c.toNat).map fun n => (n, n)) := rfl
  rw [cases, CharSet.contains, CharSet.containsCode_ofCodes, List.contains_iff_mem, mem_casesOf_iff]

theorem fits_letterSets : Fits (w.map (letterSet anyCase)) u ↔ SameLetters w u := by
  simp only [Fits, List.forall₂_map_left_iff, contains_letterSet, SameLetters]

/-- A word is found where the same letters are. -/
theorem isFoundIn_literal_iff : (literal w).isFoundIn cs = true ↔ ∃ u, u <:+: cs ∧ SameLetters w u := by
  have row : literal w = sequence ((w.map (letterSet anyCase)).map set) := by rw [literal, List.map_map]; rfl
  rw [row, isFoundIn_sequence_iff]
  simp only [fits_letterSets]

/-! ### How a word is read -/

/-- The characters that structure a pattern. -/
def structural : List Char := ['(', ')', '|', '?', '*', '+', '{', '[', '\\', '.', '^', '$']

theorem part?_of_notMem (plain : c ∉ structural) (cs : List Char) (flags : Flags)
    (names : List (List Char)) :
    part? ⟨c :: cs, flags, names⟩ = some (letterPart flags c, ⟨cs, flags, names⟩) := by
  rw [part?]
  split
  case h_7 other =>
    obtain ⟨rfl, rfl⟩ := List.cons.inj other
    rfl
  case h_1 empty => exact nomatch empty
  all_goals
    rename_i here
    exact absurd (by rw [(List.cons.inj here).1]; decide) plain

/-- A character that structures nothing is one more part. -/
theorem branchesFrom?_of_notMem (plain : c ∉ structural) (fuel : Nat) (before parts : List Part) :
    branchesFrom? (fuel + 1) ⟨c :: cs, anyCase, []⟩ before parts =
      branchesFrom? fuel ⟨cs, anyCase, []⟩ before (letterPart anyCase c :: parts) := by
  have skipped : Cursor.skip ⟨c :: cs, anyCase, []⟩ = ⟨c :: cs, anyCase, []⟩ := rfl
  rw [branchesFrom?, skipped]
  split
  case h_9 =>
    rw [part?_of_notMem plain]
    rfl
  case h_1 empty => exact nomatch empty
  all_goals
    rename_i here
    exact absurd (by rw [(List.cons.inj here).1]; decide) plain

theorem branchesFrom?_of_plain (plain : ∀ c ∈ w, c ∉ structural) (parts : List Part) :
    branchesFrom? (w.length + 1) ⟨w, anyCase, []⟩ [] parts =
      some (branch (w.reverse.map (letterPart anyCase) ++ parts), ⟨[], anyCase, []⟩) := by
  induction w generalizing parts with
  | nil => rfl
  | cons c rest ih =>
    rw [List.forall_mem_cons] at plain
    rw [List.length_cons, branchesFrom?_of_notMem plain.1, ih plain.2, List.reverse_cons, List.map_append,
      List.append_assoc]
    rfl

theorem pattern_branch (parts : List Part) :
    (branch parts).pattern = sequence (parts.reverse.map (·.pattern)) := by
  cases parts with
  | nil => rfl
  | cons part rest => cases rest <;> rfl

theorem depth_branch_le (parts : List Part) : (branch parts).depth ≤ deepest (parts.map (·.depth)) + 1 := by
  cases parts with
  | nil => exact Nat.zero_le _
  | cons part rest =>
    cases rest with
    | nil => simp [branch, deepest]
    | cons => exact le_rfl

theorem deepest_letters (w : List Char) : deepest ((w.map (letterPart anyCase)).map (·.depth)) = 0 := by
  induction w with
  | nil => rfl
  | cons c rest ih => exact ih

/-- A word is read as its pattern, unless that is too large. -/
theorem parse?_of_plain {word : String} (plain : ∀ c ∈ word.toList, c ∉ structural) : parse? word =
    if (literal word.toList).size ≤ sizeLimit then some (literal word.toList) else none := by
  have letters : (branch (word.toList.reverse.map (letterPart anyCase))).pattern = literal word.toList := by
    rw [pattern_branch, ← List.map_reverse, List.reverse_reverse, List.map_map]
    rfl
  have shallow : (branch (word.toList.reverse.map (letterPart anyCase))).depth ≤ depthLimit := by
    refine (depth_branch_le _).trans ?_
    rw [deepest_letters]
    decide
  rw [parse?]
  dsimp only
  rw [branchesFrom?_of_plain plain, List.append_nil, Option.bind_eq_bind, Option.bind_some]
  dsimp only
  simp only [letters, List.isEmpty_nil, decide_eq_true shallow, Bool.true_and, decide_eq_true_eq]
  rfl

/-- A word is as large as its letters are. -/
theorem size_literal (nonempty : w ≠ []) :
    (literal w).size = (w.map fun c => setSize (letterSet anyCase c)).sum := by
  induction w with
  | nil => exact absurd rfl nonempty
  | cons c rest ih =>
    cases rest with
    | nil => rfl
    | cons d rest => exact congrArg (setSize (letterSet anyCase c) + ·) (ih (List.cons_ne_nil d rest))

end SchemaHistory.Pattern
