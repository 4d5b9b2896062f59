import Mathlib.Data.List.Basic
import Mathlib.Data.List.TakeWhile
import SchemaHistory.Text.Blank
import SchemaHistory.Text.Lowercase

/-!
Texts in small letters.

No letter is sent to one that has a small form of its own, nor to a blank, so that a text in small letters
stays as it is and no blank comes in. A capital sigma looks at what stands around it, but not past a
space: texts with a space between them are made small one by one.
-/

namespace SchemaHistory

/-! ### Runs of letters -/

namespace CaseRun

variable {r s : CaseRun} {runs : List CaseRun} {m n lo hi : Nat}

/-- Whether the run sends nothing to the code points between two, both included. -/
def avoids (r : CaseRun) (lo hi : Nat) : Bool :=
  Nat.blt hi r.image || Nat.blt (r.image + (r.last - r.first)) lo

/-- Whether the code points of the run are all even or all odd. -/
def alternates (r : CaseRun) : Bool := Nat.beq (r.stride % 2) 0 || Nat.beq r.first r.last

/-- Whether the one run sends nothing to a code point of the other, as they are far apart or one of them has
the even code points of a stretch and the other the odd ones. -/
def apart (r s : CaseRun) : Bool :=
  r.avoids s.first s.last ||
    (r.alternates && s.alternates && !Nat.beq (r.image % 2) (s.first % 2))

theorem imageOf?_eq_some_iff : r.imageOf? n = some m ↔
    r.first ≤ n ∧ n ≤ r.last ∧ r.stride ∣ n - r.first ∧ m = r.image + (n - r.first) := by
  rw [imageOf?, Nat.dvd_iff_mod_eq_zero, Option.ite_none_right_eq_some]
  simp only [Bool.and_eq_true, decide_eq_true_eq, beq_iff_eq, Option.some.injEq, and_assoc,
    eq_comm (a := m)]

theorem of_avoids (avoids : r.avoids lo hi = true) (sent : r.imageOf? n = some m) :
    m < lo ∨ hi < m := by
  obtain ⟨-, stops, -, rfl⟩ := imageOf?_eq_some_iff.1 sent
  rw [CaseRun.avoids, Bool.or_eq_true, Nat.blt_eq, Nat.blt_eq] at avoids
  omega

theorem even_of_alternates (alternates : r.alternates = true) (sent : r.imageOf? n = some m) :
    2 ∣ n - r.first := by
  obtain ⟨starts, stops, step, -⟩ := imageOf?_eq_some_iff.1 sent
  rw [CaseRun.alternates, Bool.or_eq_true, Nat.beq_eq, Nat.beq_eq] at alternates
  rcases alternates with even | single
  · exact Nat.dvd_trans (Nat.dvd_of_mod_eq_zero even) step
  · omega

/-- What the one run sends is no code point of the other. -/
theorem imageOf?_eq_none_of_apart (apart : r.apart s = true) (sent : r.imageOf? n = some m) :
    s.imageOf? m = none := by
  rw [Option.eq_none_iff_forall_ne_some]
  intro k again
  obtain ⟨starts, stops, -, -⟩ := imageOf?_eq_some_iff.1 again
  obtain ⟨-, -, -, image⟩ := imageOf?_eq_some_iff.1 sent
  rw [CaseRun.apart, Bool.or_eq_true] at apart
  rcases apart with avoids | parity
  · have := of_avoids avoids sent
    omega
  · simp only [Bool.and_eq_true, Bool.not_eq_true'] at parity
    have first := even_of_alternates parity.1.1 sent
    have second := even_of_alternates parity.1.2 again
    have differ : r.image % 2 ≠ s.first % 2 := Nat.ne_of_beq_eq_false parity.2
    omega

theorem exists_of_find?_eq_some (found : find? runs n = some m) :
    ∃ r ∈ runs, r.imageOf? n = some m := by
  fun_induction find? runs n with
  | case1 => exact absurd found (Option.some_ne_none m).symm
  | case2 => exact absurd found (Option.some_ne_none m).symm
  | case3 r rest _ _ _ sent => exact ⟨r, List.mem_cons_self, sent.trans found⟩
  | case4 r rest _ _ _ ih =>
    obtain ⟨s, member, sent⟩ := ih found
    exact ⟨s, List.mem_cons_of_mem r member, sent⟩

theorem find?_eq_none (outside : ∀ r ∈ runs, r.imageOf? n = none) : find? runs n = none := by
  rw [Option.eq_none_iff_forall_ne_some]
  intro m found
  obtain ⟨r, member, sent⟩ := exists_of_find?_eq_some found
  rw [outside r member] at sent
  exact absurd sent (Option.some_ne_none m).symm

end CaseRun

/-! ### Single characters -/

variable {c d : Char} {a b cs before : List Char}

/-- No letter with a small form is a small form. -/
theorem apart_lowerRuns : (lowerRuns.all fun r => lowerRuns.all r.apart) = true := by decide +kernel

/-- No small form is the dotted capital I or a blank. -/
theorem avoids_lowerRuns :
    (lowerRuns.all fun r => r.avoids 0x130 0x130 && blanks.ranges.all fun (lo, hi) => r.avoids lo hi) =
      true := by
  decide +kernel

/-- What a capital or small letter is sent to has no run of its own, and is neither the dotted capital I nor
a blank. -/
theorem image_of_lowerRuns {m n : Nat} (found : CaseRun.find? lowerRuns n = some m) :
    CaseRun.find? lowerRuns m = none ∧ m ≠ 0x130 ∧ blanks.containsCode m = false := by
  obtain ⟨r, member, sent⟩ := CaseRun.exists_of_find?_eq_some found
  have apart := List.all_eq_true.1 (List.all_eq_true.1 apart_lowerRuns r member)
  have avoids := List.all_eq_true.1 avoids_lowerRuns r member
  rw [Bool.and_eq_true, List.all_eq_true] at avoids
  refine ⟨CaseRun.find?_eq_none fun s inside => CaseRun.imageOf?_eq_none_of_apart (apart s inside) sent,
    ?_, ?_⟩
  · have := CaseRun.of_avoids avoids.1 sent
    omega
  · rw [CharSet.containsCode, List.any_eq_false]
    intro range inside
    have := CaseRun.of_avoids (avoids.2 range inside) sent
    simp only [Bool.and_eq_true, decide_eq_true_eq, not_and]
    omega

/-- A character that is its own small form. -/
structure Settled (c : Char) : Prop where
  other : c ≠ 'Σ'
  own : lowerChar c = [c]

theorem settled_of_find?_eq_none (undotted : c.toNat ≠ 0x130)
    (outside : CaseRun.find? lowerRuns c.toNat = none) : Settled c where
  other := by
    rintro rfl
    revert outside
    decide
  own := by
    rw [lowerChar, outside, if_neg]
    simpa using undotted

/-- A number is the code point of its character, unless it is the code point of none. -/
theorem toNat_ofNat_cases (n : Nat) : (Char.ofNat n).toNat = n ∨ (Char.ofNat n).toNat = 0 := by
  by_cases valid : n.isValidChar
  · have own : Char.ofNat n = Char.ofNatAux n valid := dif_pos valid
    rw [own]
    exact Or.inl rfl
  · have null : Char.ofNat n = Char.ofNat 0 := dif_neg valid
    rw [null]
    exact Or.inr rfl

theorem settled_image {m n : Nat} (found : CaseRun.find? lowerRuns n = some m) :
    Settled (Char.ofNat m) ∧ isBlank (Char.ofNat m) = false := by
  have image : CaseRun.find? lowerRuns (Char.ofNat m).toNat = none ∧
      (Char.ofNat m).toNat ≠ 0x130 ∧ blanks.containsCode (Char.ofNat m).toNat = false := by
    rcases toNat_ofNat_cases m with code | code
    · rw [code]
      exact image_of_lowerRuns found
    · rw [code]
      decide
  exact ⟨settled_of_find?_eq_none image.2.1 image.1, image.2.2⟩

/-- The small form of a character is settled, and it is no blank unless the character is one. -/
theorem settled_of_mem_lowerChar (other : c ≠ 'Σ') (member : d ∈ lowerChar c) :
    Settled d ∧ (isBlank c = false → isBlank d = false) := by
  rw [lowerChar] at member
  split at member
  · rcases List.mem_cons.1 member with rfl | member
    · exact ⟨⟨by decide, by decide⟩, fun _ => by decide⟩
    · obtain rfl := List.mem_singleton.1 member
      exact ⟨⟨by decide, by decide⟩, fun _ => by decide⟩
  · rename_i undotted
    split at member
    · rename_i found
      obtain rfl := List.mem_singleton.1 member
      exact ⟨(settled_image found).1, fun _ => (settled_image found).2⟩
    · rename_i outside
      obtain rfl := List.mem_singleton.1 member
      exact ⟨settled_of_find?_eq_none (by simpa using undotted) outside, id⟩

/-! ### Texts -/

theorem settled_lowerSigma (before after : List Char) :
    Settled (lowerSigma before after) ∧ isBlank (lowerSigma before after) = false := by
  rw [lowerSigma]
  split
  · exact ⟨⟨by decide, by decide⟩, by decide⟩
  · exact ⟨⟨by decide, by decide⟩, by decide⟩

/-- What is in a text in small letters is settled, and it is no blank if none was there. -/
theorem settled_of_mem_lowerAfter (member : d ∈ lowerAfter before cs) :
    Settled d ∧ ((∀ c ∈ cs, isBlank c = false) → isBlank d = false) := by
  induction cs generalizing before with
  | nil => exact absurd member List.not_mem_nil
  | cons c rest ih =>
    rw [lowerAfter, List.mem_append] at member
    rw [List.forall_mem_cons]
    rcases member with here | later
    · split at here
      · obtain rfl := List.mem_singleton.1 here
        exact ⟨(settled_lowerSigma _ _).1, fun _ => (settled_lowerSigma _ _).2⟩
      · rename_i other
        have small := settled_of_mem_lowerChar (by simpa using other) here
        exact ⟨small.1, fun visible => small.2 visible.1⟩
    · exact ⟨(ih later).1, fun visible => (ih later).2 visible.2⟩

theorem isBlank_of_mem_lower (visible : ∀ c ∈ cs, isBlank c = false) (member : d ∈ lower cs) :
    isBlank d = false := (settled_of_mem_lowerAfter member).2 visible

theorem lowerAfter_of_settled (settled : ∀ c ∈ cs, Settled c) (before : List Char) :
    lowerAfter before cs = cs := by
  induction cs generalizing before with
  | nil => rfl
  | cons c rest ih =>
    rw [List.forall_mem_cons] at settled
    rw [lowerAfter, if_neg (by simpa using settled.1.other), settled.1.own, ih settled.2]
    rfl

/-- A text in small letters stays as it is. -/
theorem lower_lower (cs : List Char) : lower (lower cs) = lower cs :=
  lowerAfter_of_settled (fun _ member => (settled_of_mem_lowerAfter member).1) []

theorem lowerChar_ne_nil (c : Char) : lowerChar c ≠ [] := by
  rw [lowerChar]
  split
  · exact List.cons_ne_nil _ _
  · split <;> exact List.cons_ne_nil _ _

theorem lower_ne_nil (nonempty : cs ≠ []) : lower cs ≠ [] := by
  obtain ⟨c, rest, rfl⟩ := List.exists_cons_of_ne_nil nonempty
  rw [lower, lowerAfter]
  refine List.append_ne_nil_of_left_ne_nil ?_ _
  split
  · exact List.cons_ne_nil _ _
  · exact lowerChar_ne_nil c

/-! ### Spaces -/

theorem caseIgnorable_space : caseIgnorable.contains ' ' = false := by decide +kernel

theorem cased_space : cased.contains ' ' = false := by decide +kernel

/-- A sigma does not look past a space. -/
theorem meetsCased_append_space (a b : List Char) : meetsCased (a ++ ' ' :: b) = meetsCased a := by
  induction a with
  | nil =>
    rw [List.nil_append, meetsCased,
      List.dropWhile_cons_of_neg (by rw [caseIgnorable_space]; exact Bool.false_ne_true)]
    exact cased_space
  | cons c rest ih =>
    rw [meetsCased, meetsCased] at ih
    rw [List.cons_append, meetsCased, meetsCased]
    cases ignorable : caseIgnorable.contains c with
    | true => rwa [List.dropWhile_cons_of_pos ignorable, List.dropWhile_cons_of_pos ignorable]
    | false =>
      have stops : ¬ caseIgnorable.contains c = true := by rw [ignorable]; exact Bool.false_ne_true
      rw [List.dropWhile_cons_of_neg stops, List.dropWhile_cons_of_neg stops]

theorem lowerAfter_append_space (before a b : List Char) : lowerAfter before (a ++ ' ' :: b) =
    lowerAfter before a ++ ' ' :: lowerAfter (' ' :: (a.reverse ++ before)) b := by
  induction a generalizing before with
  | nil =>
    rw [List.nil_append, lowerAfter, lowerAfter]
    rfl
  | cons c rest ih =>
    rw [List.cons_append, lowerAfter, lowerAfter, ih, lowerSigma, lowerSigma, meetsCased_append_space,
      List.reverse_cons, List.append_assoc, List.append_assoc]
    rfl

theorem lowerAfter_of_space (a before cs : List Char) :
    lowerAfter (a ++ ' ' :: before) cs = lowerAfter a cs := by
  induction cs generalizing a with
  | nil => rfl
  | cons c rest ih =>
    rw [lowerAfter, lowerAfter, lowerSigma, lowerSigma, meetsCased_append_space, ← List.cons_append, ih]

/-- Texts with a space between them are made small one by one. -/
theorem lower_append_space (a b : List Char) : lower (a ++ ' ' :: b) = lower a ++ ' ' :: lower b := by
  have behind : lowerAfter ([] ++ ' ' :: (a.reverse ++ [])) b = lowerAfter [] b :=
    lowerAfter_of_space [] (a.reverse ++ []) b
  rw [lower, lowerAfter_append_space, ← List.nil_append (' ' :: (a.reverse ++ [])), behind, lower, lower]

end SchemaHistory
