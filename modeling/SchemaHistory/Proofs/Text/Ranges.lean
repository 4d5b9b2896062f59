import Mathlib.Data.List.Basic
import SchemaHistory.Text.CharSet

/-!
Sets of characters by their ranges.

Putting ranges in order and joining those that touch changes nothing about which code points they hold.
-/

namespace SchemaHistory.CharSet

variable {l : List (Nat × Nat)} {n : Nat}

/-- Whether a range holds a code point. -/
def holds (n : Nat) (r : Nat × Nat) : Bool := r.1 ≤ n && n ≤ r.2

/-- Joining the ranges of an ascending list keeps what they hold. -/
theorem any_joinTouching (ascending : l.Pairwise fun x y => x.1 ≤ y.1) (n : Nat) :
    (joinTouching l).any (holds n) = l.any (holds n) := by
  fun_induction joinTouching l with
  | case1 => rfl
  | case2 => rfl
  | case3 a b c d rest touch ih =>
    obtain ⟨first, later⟩ := List.pairwise_cons.1 ascending
    rw [List.forall_mem_cons] at first
    have joined : holds n (a, max b d) = (holds n (a, b) || holds n (c, d)) := by
      have order : a ≤ c := first.1
      rw [Bool.eq_iff_iff]
      simp only [holds, Bool.or_eq_true, Bool.and_eq_true, decide_eq_true_eq]
      omega
    rw [ih (List.pairwise_cons.2 ⟨first.2, later.tail⟩), List.any_cons, List.any_cons, List.any_cons, joined,
      Bool.or_assoc]
  | case4 a b c d rest gap ih =>
    rw [List.any_cons, List.any_cons (a := (a, b)), ih ascending.tail]

/-- A set holds what the ranges hold that it is made from. -/
theorem containsCode_ofRanges (l : List (Nat × Nat)) (n : Nat) :
    (ofRanges l).containsCode n = l.any (holds n) := by
  have ascending := @List.pairwise_mergeSort _ (fun x y : Nat × Nat => decide (x.1 ≤ y.1))
    (fun x y z first second => by simp only [decide_eq_true_eq] at *; omega)
    (fun x y => by simp only [Bool.or_eq_true, decide_eq_true_eq]; omega) l
  simp only [decide_eq_true_eq] at ascending
  exact (any_joinTouching ascending n).trans (List.mergeSort_perm l _).any_eq

/-- The set of single code points. -/
theorem containsCode_ofCodes (codes : List Nat) (n : Nat) :
    (ofRanges (codes.map fun m => (m, m))).containsCode n = codes.contains n := by
  rw [containsCode_ofRanges, List.any_map, List.contains_eq_any_beq]
  congr 1
  funext m
  rw [Bool.eq_iff_iff]
  simp only [Function.comp_apply, holds, Bool.and_eq_true, decide_eq_true_eq, beq_iff_eq]
  omega

end SchemaHistory.CharSet
