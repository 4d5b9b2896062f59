import Mathlib.Data.List.Forall2
import SchemaHistory.Pattern.Match

/-!
Where a row of sets is found.

Every set takes the places in front of its characters one further, so that a row of sets ends behind the
texts that have, one by one, a character of each set; it is found in a text that has such a text in it.
-/

namespace SchemaHistory.Pattern

variable {text : List Char} {s : CharSet} {places i j : Nat}

/-! ### Sets of places -/

theorem testBit_bits (l : List Bool) (i : Nat) : (bits l).testBit i = l.getD i false := by
  induction l generalizing i with
  | nil => exact Nat.zero_testBit i
  | cons b rest ih =>
    have step : bits (b :: rest) = 2 * bits rest + b.toNat := rfl
    have small : b.toNat < 2 := Bool.toNat_lt b
    cases i with
    | zero =>
      rw [step, Nat.testBit_zero]
      cases b <;> simp
    | succ i =>
      have half : (2 * bits rest + b.toNat) / 2 = bits rest := by omega
      rw [step, Nat.testBit_succ, half, ih, List.getD_cons_succ]

theorem testBit_placesBefore (s : CharSet) (text : List Char) (i : Nat) :
    (placesBefore s text).testBit i = true ↔ ∃ c, text[i]? = some c ∧ s.contains c = true := by
  rw [placesBefore, testBit_bits, List.getD_eq_getElem?_getD, List.getElem?_map]
  cases text[i]? <;> simp

/-- A set takes a place in front of one of its characters one further. -/
theorem testBit_reach_set : (reach text (set s) places).testBit j = true ↔
    ∃ i c, j = i + 1 ∧ places.testBit i = true ∧ text[i]? = some c ∧ s.contains c = true := by
  rw [reach, Nat.testBit_shiftLeft, Nat.testBit_and]
  simp only [Bool.and_eq_true, decide_eq_true_eq, testBit_placesBefore]
  constructor
  · rintro ⟨behind, here, c, there, inside⟩
    exact ⟨j - 1, c, by omega, here, there, inside⟩
  · rintro ⟨i, c, rfl, here, there, inside⟩
    exact ⟨Nat.le_add_left 1 i, here, c, there, inside⟩

theorem reach_sequence_cons (p : Pattern) (ps : List Pattern) :
    reach text (sequence (p :: ps)) places = reach text (sequence ps) (reach text p places) := by
  cases ps <;> rfl

/-! ### Rows of sets -/

/-- A text that has a character of each set, one by one. -/
def Fits (sets : List CharSet) (u : List Char) : Prop := List.Forall₂ (fun s c => s.contains c = true) sets u

theorem cons_prefix_drop_iff {c : Char} {u : List Char} :
    c :: u <+: text.drop i ↔ text[i]? = some c ∧ u <+: text.drop (i + 1) := by
  rw [← List.head?_drop, ← List.tail_drop]
  cases text.drop i with
  | nil => simp
  | cons d rest => simp [List.cons_prefix_cons, eq_comm]

/-- A row of sets takes a place in front of a text that fits it to the place behind. -/
theorem testBit_reach_sequence {sets : List CharSet} :
    (reach text (sequence (sets.map set)) places).testBit j = true ↔
      ∃ i u, j = i + u.length ∧ places.testBit i = true ∧ u <+: text.drop i ∧ Fits sets u := by
  induction sets generalizing places with
  | nil =>
    constructor
    · intro here
      exact ⟨j, [], rfl, here, List.nil_prefix, .nil⟩
    · rintro ⟨i, u, rfl, here, -, fits⟩
      obtain rfl := List.forall₂_nil_left_iff.1 fits
      exact here
  | cons s sets ih =>
    rw [List.map_cons, reach_sequence_cons, ih]
    constructor
    · rintro ⟨k, u, rfl, there, ahead, fits⟩
      obtain ⟨i, c, rfl, here, next, inside⟩ := testBit_reach_set.1 there
      exact ⟨i, c :: u, by rw [List.length_cons]; omega, here, cons_prefix_drop_iff.2 ⟨next, ahead⟩,
        .cons inside fits⟩
    · rintro ⟨i, whole, rfl, here, ahead, fits⟩
      obtain ⟨c, u, inside, later, rfl⟩ := List.forall₂_cons_left_iff.1 fits
      obtain ⟨next, ahead⟩ := cons_prefix_drop_iff.1 ahead
      exact ⟨i + 1, u, by rw [List.length_cons]; omega, testBit_reach_set.2 ⟨i, c, rfl, here, next, inside⟩,
        ahead, later⟩

/-- A row of sets is found in the texts in which a text that fits it is. -/
theorem isFoundIn_sequence_iff {sets : List CharSet} :
    (sequence (sets.map set)).isFoundIn text = true ↔ ∃ u, u <:+: text ∧ Fits sets u := by
  rw [isFoundIn, bne_iff_ne, Nat.one_shiftLeft]
  constructor
  · intro some
    obtain ⟨j, reached⟩ := Nat.exists_testBit_of_ne_zero some
    obtain ⟨i, u, -, -, ahead, fits⟩ := testBit_reach_sequence.1 reached
    exact ⟨u, ahead.isInfix.trans (List.drop_suffix i text).isInfix, fits⟩
  · rintro ⟨u, ⟨before, after, rfl⟩, fits⟩ none
    have start : (2 ^ ((before ++ u ++ after).length + 1) - 1).testBit before.length = true := by
      rw [Nat.testBit_two_pow_sub_one, List.length_append, List.length_append, decide_eq_true_eq]
      omega
    have ahead : u <+: (before ++ u ++ after).drop before.length := by
      rw [List.append_assoc, List.drop_left]
      exact List.prefix_append u after
    have reached := testBit_reach_sequence.2 ⟨before.length, u, rfl, start, ahead, fits⟩
    rw [none, Nat.zero_testBit] at reached
    exact absurd reached Bool.false_ne_true

end SchemaHistory.Pattern
