import Mathlib.Data.List.Forall2
import SchemaHistory.Proofs.Text.Lower
import SchemaHistory.Text.CaseFolding
import SchemaHistory.Text.Uppercase

/-!
Letters in capitals, and letters but for their case.

A text in capitals is no longer the same letters if it had a dotless i, whose capital is that of another
letter, or one of the letters that are several in capitals. All other letters stay the letters that they are.
-/

namespace SchemaHistory

/-! ### Runs of letters -/

namespace CaseRun

variable {r s : CaseRun} {runs : List CaseRun} {m n : Nat}

theorem preimage?_eq_some_iff : r.preimage? m = some n ↔ r.imageOf? n = some m := by
  rw [imageOf?_eq_some_iff, preimage?, Option.ite_none_right_eq_some, Nat.dvd_iff_mod_eq_zero]
  simp only [Bool.and_eq_true, decide_eq_true_eq, beq_iff_eq, Option.some.injEq]
  constructor
  · rintro ⟨⟨⟨above, within⟩, step⟩, rfl⟩
    exact ⟨Nat.le_add_right _ _, within, step, by omega⟩
  · rintro ⟨starts, stops, step, rfl⟩
    have back : r.first + (r.image + (n - r.first) - r.image) = n := by omega
    rw [back]
    exact ⟨⟨⟨Nat.le_add_right _ _, stops⟩, step⟩, rfl⟩

/-- Whether the runs stand in ascending order and do not overlap. -/
def ascend : List CaseRun → Bool
  | [] => true
  | [_] => true
  | r :: s :: rest => Nat.blt r.first s.first && Nat.blt r.last s.first && ascend (s :: rest)

theorem before_of_ascend (ascending : ascend (r :: runs) = true) (member : s ∈ runs) :
    r.first < s.first ∧ r.last < s.first := by
  induction runs generalizing r with
  | nil => exact absurd member List.not_mem_nil
  | cons t rest ih =>
    rw [ascend, Bool.and_eq_true, Bool.and_eq_true, Nat.blt_eq, Nat.blt_eq] at ascending
    rcases List.mem_cons.1 member with rfl | member
    · exact ascending.1
    · have later := ih ascending.2 member
      omega

theorem ascend_tail (ascending : ascend (r :: runs) = true) : ascend runs = true := by
  cases runs with
  | nil => rfl
  | cons t rest =>
    rw [ascend, Bool.and_eq_true] at ascending
    exact ascending.2

/-- Runs in ascending order send a code point where the one that holds it does. -/
theorem find?_eq_some_iff (ascending : ascend runs = true) :
    find? runs n = some m ↔ ∃ r ∈ runs, r.imageOf? n = some m := by
  refine ⟨exists_of_find?_eq_some, ?_⟩
  induction runs with
  | nil =>
    rintro ⟨r, member, -⟩
    exact absurd member List.not_mem_nil
  | cons s rest ih =>
    rintro ⟨r, member, sent⟩
    obtain ⟨starts, -, -, -⟩ := imageOf?_eq_some_iff.1 sent
    rw [find?]
    rcases List.mem_cons.1 member with rfl | member
    · rw [if_neg (Nat.not_lt.2 starts), sent]
    · have before := before_of_ascend ascending member
      have none : s.imageOf? n = none := by
        rw [Option.eq_none_iff_forall_ne_some]
        intro k here
        obtain ⟨-, stops, -, -⟩ := imageOf?_eq_some_iff.1 here
        omega
      rw [if_neg (by omega), none]
      exact ih (ascend_tail ascending) ⟨r, member, sent⟩

/-- The code points of a run, each with the one that it is sent to. -/
def sends (r : CaseRun) : List (Nat × Nat) :=
  (List.range ((r.last - r.first) / r.stride + 1)).map fun i =>
    (r.first + i * r.stride, r.image + i * r.stride)

theorem mem_sends (sent : r.imageOf? n = some m) : (n, m) ∈ r.sends := by
  obtain ⟨starts, stops, ⟨i, distance⟩, rfl⟩ := imageOf?_eq_some_iff.1 sent
  rw [sends, List.mem_map]
  rcases Nat.eq_zero_or_pos r.stride with zero | positive
  · refine ⟨0, List.mem_range.2 (Nat.succ_pos _), ?_⟩
    rw [zero, Nat.zero_mul] at distance
    exact Prod.ext (by simp; omega) (by simp; omega)
  · rw [Nat.mul_comm] at distance
    refine ⟨i, List.mem_range.2 (Nat.lt_succ_of_le ((Nat.le_div_iff_mul_le positive).2 (by omega))), ?_⟩
    exact Prod.ext (by simp; omega) (by simp; omega)

/-- Whether the second run sends back what the first one sends. -/
def undoneBy (r s : CaseRun) : Bool :=
  Nat.ble s.first r.image && Nat.ble (r.image + (r.last - r.first)) s.last &&
    Nat.beq ((r.image - s.first) % s.stride) 0 && Nat.beq (r.stride % s.stride) 0 &&
    Nat.beq (s.image + (r.image - s.first)) r.first

/-- Whether the second run sends all that the first one sends to the same code points. -/
def isPartOf (r s : CaseRun) : Bool :=
  Nat.ble s.first r.first && Nat.ble r.last s.last &&
    Nat.beq ((r.first - s.first) % s.stride) 0 && Nat.beq (r.stride % s.stride) 0 &&
    Nat.beq (s.image + (r.first - s.first)) r.image

theorem imageOf?_of_undoneBy (undone : r.undoneBy s = true) (sent : r.imageOf? n = some m) :
    s.imageOf? m = some n := by
  obtain ⟨starts, stops, step, rfl⟩ := imageOf?_eq_some_iff.1 sent
  simp only [undoneBy, Bool.and_eq_true, Nat.ble_eq, Nat.beq_eq] at undone
  obtain ⟨⟨⟨⟨low, high⟩, shift⟩, finer⟩, back⟩ := undone
  have distance : r.image + (n - r.first) - s.first = r.image - s.first + (n - r.first) := by omega
  refine imageOf?_eq_some_iff.2 ⟨by omega, by omega, ?_, by omega⟩
  rw [distance]
  exact Nat.dvd_add (Nat.dvd_of_mod_eq_zero shift) (Nat.dvd_trans (Nat.dvd_of_mod_eq_zero finer) step)

theorem imageOf?_of_isPartOf (part : r.isPartOf s = true) (sent : r.imageOf? n = some m) :
    s.imageOf? n = some m := by
  obtain ⟨starts, stops, step, rfl⟩ := imageOf?_eq_some_iff.1 sent
  simp only [isPartOf, Bool.and_eq_true, Nat.ble_eq, Nat.beq_eq] at part
  obtain ⟨⟨⟨⟨low, high⟩, shift⟩, finer⟩, same⟩ := part
  have distance : n - s.first = r.first - s.first + (n - r.first) := by omega
  refine imageOf?_eq_some_iff.2 ⟨by omega, by omega, ?_, by omega⟩
  rw [distance]
  exact Nat.dvd_add (Nat.dvd_of_mod_eq_zero shift) (Nat.dvd_trans (Nat.dvd_of_mod_eq_zero finer) step)

end CaseRun

/-! ### The cases of a letter -/

variable {c d e : Char} {m n : Nat}

theorem ascend_foldRuns : CaseRun.ascend foldRuns = true := by decide +kernel

/-- No letter with another fold is a fold. -/
theorem apart_foldRuns : (foldRuns.all fun r => foldRuns.all r.apart) = true := by decide +kernel

theorem foldCode_foldCode (n : Nat) : foldCode (foldCode n) = foldCode n := by
  cases found : CaseRun.find? foldRuns n with
  | none =>
    have own : foldCode n = n := by rw [foldCode, found, Option.getD_none]
    rw [own, own]
  | some m =>
    obtain ⟨r, member, sent⟩ := CaseRun.exists_of_find?_eq_some found
    have none : CaseRun.find? foldRuns m = none := CaseRun.find?_eq_none fun s inside =>
      CaseRun.imageOf?_eq_none_of_apart
        (List.all_eq_true.1 (List.all_eq_true.1 apart_foldRuns r member) s inside) sent
    have sent : foldCode n = m := by rw [foldCode, found, Option.getD_some]
    rw [sent, foldCode, none, Option.getD_none]

/-- The cases of a letter are the code points that fold to the same one. -/
theorem mem_casesOf_iff : m ∈ casesOf n ↔ foldCode m = foldCode n := by
  have sent : m ∈ CaseRun.preimages foldRuns (foldCode n) ↔
      CaseRun.find? foldRuns m = some (foldCode n) := by
    simp only [CaseRun.preimages, List.mem_filterMap, CaseRun.preimage?_eq_some_iff,
      CaseRun.find?_eq_some_iff ascend_foldRuns]
  rw [casesOf, List.mem_cons, sent]
  constructor
  · rintro (rfl | found)
    · exact foldCode_foldCode n
    · rw [foldCode, found, Option.getD_some]
  · intro same
    cases found : CaseRun.find? foldRuns m with
    | none =>
      rw [foldCode, found, Option.getD_none] at same
      exact Or.inl same
    | some k =>
      rw [foldCode, found, Option.getD_some] at same
      exact Or.inr (congrArg some same)

/-! ### Letters that are others in capitals -/

/-- The letters that are others in capitals: the dotless i, and those that become several characters. -/
def changed : List Nat := 0x131 :: upperExpansions.map (·.1)

/-- Stretches of code points that hold all letters that are others in capitals. -/
def changedStretches : List (Nat × Nat) :=
  [(0xDF, 0xDF), (0x131, 0x131), (0x149, 0x149), (0x1F0, 0x1F0), (0x390, 0x390), (0x3B0, 0x3B0),
    (0x587, 0x587), (0x1E96, 0x1E9A), (0x1F50, 0x1FFC), (0xFB00, 0xFB17)]

/-- Whether no code point of the run is among the letters that are others in capitals. -/
def CaseRun.outside (r : CaseRun) : Bool :=
  changedStretches.all fun x => Nat.blt r.last x.1 || Nat.blt x.2 r.first

theorem stretches_changed : (changed.all fun n => changedStretches.any fun x =>
    Nat.ble x.1 n && Nat.ble n x.2) = true := by
  decide +kernel

theorem exists_stretch (member : n ∈ changed) : ∃ x ∈ changedStretches, x.1 ≤ n ∧ n ≤ x.2 := by
  obtain ⟨x, inside, within⟩ := List.any_eq_true.1 (List.all_eq_true.1 stretches_changed n member)
  rw [Bool.and_eq_true, Nat.ble_eq, Nat.ble_eq] at within
  exact ⟨x, inside, within⟩

theorem notMem_changed_of_outside {r : CaseRun} (outside : r.outside = true) (sent : r.imageOf? n = some m) :
    n ∉ changed := by
  intro member
  obtain ⟨starts, stops, -, -⟩ := CaseRun.imageOf?_eq_some_iff.1 sent
  obtain ⟨x, inside, low, high⟩ := exists_stretch member
  have apart := List.all_eq_true.1 outside x inside
  rw [Bool.or_eq_true, Nat.blt_eq, Nat.blt_eq] at apart
  omega

/-- A letter that is another in capitals folds to such a letter, and no other one does but the capital sharp
s. -/
theorem foldRuns_changed : (foldRuns.all fun r =>
    (r.outside && changedStretches.all fun x => r.avoids x.1 x.2) || r.sends.all fun x =>
      (changed.contains x.1 == changed.contains x.2) || Nat.beq x.1 0x1E9E) = true := by
  decide +kernel

theorem foldCode_mem_changed_iff (other : n ≠ 0x1E9E) : foldCode n ∈ changed ↔ n ∈ changed := by
  rw [foldCode]
  cases found : CaseRun.find? foldRuns n with
  | none => rfl
  | some m =>
    obtain ⟨r, member, sent⟩ := CaseRun.exists_of_find?_eq_some found
    have held := List.all_eq_true.1 foldRuns_changed r member
    rw [Bool.or_eq_true, Bool.and_eq_true] at held
    rw [Option.getD_some]
    rcases held with ⟨outside, avoids⟩ | each
    · refine iff_of_false (fun inside => ?_) (notMem_changed_of_outside outside sent)
      obtain ⟨x, stretch, low, high⟩ := exists_stretch inside
      have := CaseRun.of_avoids (List.all_eq_true.1 avoids x stretch) sent
      omega
    · have same := List.all_eq_true.1 each _ (CaseRun.mem_sends sent)
      rw [Bool.or_eq_true, Nat.beq_eq] at same
      have same := eq_of_beq (same.resolve_right other)
      rw [← List.contains_iff_mem, ← List.contains_iff_mem, same]

/-! ### Capitals -/

/-- The runs of capitals belong to the runs of folds, but for a few letters that have one fold one by one. -/
theorem same_upperRuns : (upperRuns.all fun r =>
    foldRuns.any (fun s => r.undoneBy s || r.isPartOf s) || r.sends.all fun x =>
      Nat.beq x.1 0x131 || Nat.beq (foldCode x.2) (foldCode x.1)) = true := by
  decide +kernel

theorem foldCode_image (found : CaseRun.find? upperRuns n = some m) (other : n ≠ 0x131) :
    foldCode m = foldCode n := by
  obtain ⟨r, member, sent⟩ := CaseRun.exists_of_find?_eq_some found
  have folds : ∀ {s : CaseRun} {a b : Nat}, s ∈ foldRuns → s.imageOf? a = some b → foldCode a = b :=
    fun inside sends => by
      rw [foldCode, (CaseRun.find?_eq_some_iff ascend_foldRuns).2 ⟨_, inside, sends⟩, Option.getD_some]
  have held := List.all_eq_true.1 same_upperRuns r member
  rw [Bool.or_eq_true] at held
  rcases held with whole | each
  · obtain ⟨s, inside, same⟩ := List.any_eq_true.1 whole
    rcases Bool.or_eq_true .. ▸ same with undone | part
    · rw [← folds inside (CaseRun.imageOf?_of_undoneBy undone sent), foldCode_foldCode]
    · rw [← folds inside (CaseRun.imageOf?_of_isPartOf part sent), foldCode_foldCode]
  · have same := List.all_eq_true.1 each _ (CaseRun.mem_sends sent)
    rw [Bool.or_eq_true, Nat.beq_eq, Nat.beq_eq] at same
    exact same.resolve_left other

/-- Capitals are characters, and no letter has a capital form of one character and one of several. -/
theorem upperRuns_changed : (upperRuns.all fun r =>
    r.avoids 0xD800 0xDFFF && Nat.ble (r.image + (r.last - r.first)) 0x10FFFF &&
      (r.outside || r.sends.all fun x => Nat.beq x.1 0x131 || !changed.contains x.1)) = true := by
  decide +kernel

theorem toNat_image (found : CaseRun.find? upperRuns n = some m) : (Char.ofNat m).toNat = m := by
  obtain ⟨r, member, sent⟩ := CaseRun.exists_of_find?_eq_some found
  have held := List.all_eq_true.1 upperRuns_changed r member
  simp only [Bool.and_eq_true, Nat.ble_eq] at held
  obtain ⟨-, stops, -, rfl⟩ := CaseRun.imageOf?_eq_some_iff.1 sent
  have apart := CaseRun.of_avoids held.1.1 sent
  have valid : (r.image + (n - r.first)).isValidChar := by
    rw [Nat.isValidChar]
    omega
  have own : Char.ofNat (r.image + (n - r.first)) = Char.ofNatAux _ valid := dif_pos valid
  rw [own]
  rfl

theorem notMem_changed_of_find? (found : CaseRun.find? upperRuns n = some m) (other : n ≠ 0x131) :
    n ∉ changed := by
  obtain ⟨r, member, sent⟩ := CaseRun.exists_of_find?_eq_some found
  have held := List.all_eq_true.1 upperRuns_changed r member
  rw [Bool.and_eq_true, Bool.or_eq_true] at held
  rcases held.2 with outside | each
  · exact notMem_changed_of_outside outside sent
  · have kept := List.all_eq_true.1 each _ (CaseRun.mem_sends sent)
    rw [Bool.or_eq_true, Nat.beq_eq] at kept
    simpa using kept.resolve_left other

/-- What stands for a letter in capitals, if that is several characters, is not among the letters that are
others in capitals. -/
theorem expansions_changed : (upperExpansions.all fun x => x.2.all fun m =>
    !changed.contains m && !Nat.beq m 0x1E9E) = true := by
  decide +kernel

theorem mem_of_lookup {l : List Nat} (listed : upperExpansions.lookup n = some l) :
    (n, l) ∈ upperExpansions := by
  obtain ⟨before, after, whole, -⟩ := List.lookup_eq_some_iff.1 listed
  exact whole ▸ List.mem_append_right before List.mem_cons_self

theorem capital_dotless : CaseRun.find? upperRuns 0x131 = some 0x49 := by decide +kernel

/-- A letter that is not changed is one character in capitals, and the same letter. -/
theorem upperChar_of_notMem_changed (kept : c.toNat ∉ changed) :
    ∃ d, upperChar c = [d] ∧ foldCode d.toNat = foldCode c.toNat := by
  rw [changed, List.mem_cons, not_or] at kept
  rw [upperChar]
  split
  · rename_i m found
    exact ⟨_, rfl, by rw [toNat_image found, foldCode_image found kept.1]⟩
  · split
    · rename_i l listed
      exact absurd (List.mem_map_of_mem (mem_of_lookup listed)) kept.2
    · exact ⟨c, rfl, rfl⟩

/-- What stands for a letter that is changed is none of the letters that are changed, nor a case of one. -/
theorem foldCode_notMem_changed (altered : c.toNat ∈ changed) (member : d ∈ upperChar c) :
    foldCode d.toNat ∉ changed := by
  rw [upperChar] at member
  split at member
  · rename_i m found
    obtain rfl := List.mem_singleton.1 member
    have dotless : c.toNat = 0x131 := by
      by_contra other
      exact notMem_changed_of_find? found other altered
    rw [dotless, capital_dotless] at found
    obtain rfl := Option.some.inj found
    rw [foldCode_mem_changed_iff (by decide)]
    decide
  · rename_i none
    split at member
    · rename_i l listed
      obtain ⟨m, inside, rfl⟩ := List.mem_map.1 member
      rcases toNat_ofNat_cases m with code | code
      · have apart := List.all_eq_true.1
          (List.all_eq_true.1 expansions_changed _ (mem_of_lookup listed)) m inside
        rw [Bool.and_eq_true, Bool.not_eq_true', Bool.not_eq_true'] at apart
        rw [code, foldCode_mem_changed_iff (Nat.ne_of_beq_eq_false apart.2)]
        exact fun again => absurd (List.contains_iff_mem.2 again) (by rw [apart.1]; exact Bool.false_ne_true)
      · rw [code, foldCode_mem_changed_iff (by decide)]
        decide
    · rename_i unlisted
      rcases List.mem_cons.1 altered with dotless | listed
      · rw [dotless, capital_dotless] at none
        cases none
      · obtain ⟨x, inside, same⟩ := List.mem_map.1 listed
        have := List.lookup_eq_none_iff.1 unlisted x inside
        simp [same] at this

/-! ### Texts in capitals -/

variable {cs w u : List Char}

/-- Two texts that are the same letters, one by one. -/
def SameLetters (w u : List Char) : Prop := List.Forall₂ (fun c d => foldCode d.toNat = foldCode c.toNat) w u

theorem upper_append (a b : List Char) : upper (a ++ b) = upper a ++ upper b := List.flatMap_append

theorem infix_upper (inside : w <:+: cs) : upper w <:+: upper cs := by
  obtain ⟨before, after, rfl⟩ := inside
  rw [upper_append, upper_append]
  exact ⟨_, _, rfl⟩

/-- A text of letters that are not changed stays the same letters. -/
theorem sameLetters_upper (kept : ∀ c ∈ cs, c.toNat ∉ changed) : SameLetters cs (upper cs) := by
  induction cs with
  | nil => exact .nil
  | cons c rest ih =>
    rw [List.forall_mem_cons] at kept
    obtain ⟨d, capital, same⟩ := upperChar_of_notMem_changed kept.1
    rw [upper, List.flatMap_cons, capital]
    exact .cons same (ih kept.2)

/-- How often a letter occurs in a text. -/
def occurrences (n : Nat) (cs : List Char) : Nat := cs.countP fun c => foldCode c.toNat == n

theorem occurrences_append (n : Nat) (a b : List Char) :
    occurrences n (a ++ b) = occurrences n a + occurrences n b := List.countP_append

theorem occurrences_cons (n : Nat) (c : Char) (cs : List Char) :
    occurrences n (c :: cs) = occurrences n [c] + occurrences n cs := occurrences_append n [c] cs

theorem SameLetters.occurrences_eq (same : SameLetters w u) (n : Nat) :
    occurrences n u = occurrences n w := by
  induction same with
  | nil => rfl
  | @cons c d _ _ first _ ih =>
    have here : occurrences n [d] = occurrences n [c] := by simp [occurrences, first]
    rw [occurrences_cons, occurrences_cons n c, ih, here]

theorem occurrences_upperChar_of_changed (altered : n ∈ changed) (here : c.toNat ∈ changed) :
    occurrences n (upperChar c) = 0 := by
  rw [occurrences, List.countP_eq_zero]
  intro d member same
  exact foldCode_notMem_changed here member (eq_of_beq same ▸ altered)

/-- In capitals no letter that is changed occurs more often than before. -/
theorem occurrences_upperChar_le (altered : n ∈ changed) (c : Char) :
    occurrences n (upperChar c) ≤ occurrences n [c] := by
  by_cases here : c.toNat ∈ changed
  · rw [occurrences_upperChar_of_changed altered here]
    exact Nat.zero_le _
  · obtain ⟨d, capital, same⟩ := upperChar_of_notMem_changed here
    rw [capital]
    exact le_of_eq (by simp [occurrences, same])

theorem occurrences_upper_le (altered : n ∈ changed) (cs : List Char) :
    occurrences n (upper cs) ≤ occurrences n cs := by
  induction cs with
  | nil => exact le_rfl
  | cons c rest ih =>
    have split : upper (c :: rest) = upperChar c ++ upper rest := List.flatMap_cons
    rw [split, occurrences_append, occurrences_cons]
    exact Nat.add_le_add (occurrences_upperChar_le altered c) ih

/-- In capitals a letter that is changed occurs less often than before. -/
theorem occurrences_upper_lt (member : c ∈ cs) (altered : c.toNat ∈ changed) :
    occurrences (foldCode c.toNat) (upper cs) < occurrences (foldCode c.toNat) cs := by
  have other : c.toNat ≠ 0x1E9E := fun same => absurd (same ▸ altered) (by decide)
  have folded := (foldCode_mem_changed_iff other).2 altered
  obtain ⟨before, after, rfl⟩ := List.append_of_mem member
  have first := occurrences_upper_le folded before
  have last := occurrences_upper_le folded after
  have gone := occurrences_upperChar_of_changed folded altered
  have one : occurrences (foldCode c.toNat) [c] = 1 := by simp [occurrences]
  have capitals : upper (before ++ c :: after) = upper before ++ (upperChar c ++ upper after) :=
    upper_append ..
  rw [capitals, occurrences_append, occurrences_append, gone, occurrences_append, occurrences_cons, one]
  omega

/-- A text with a letter that is changed is nowhere in its capitals, in whatever case. -/
theorem not_sameLetters_of_infix_upper (member : c ∈ w) (altered : c.toNat ∈ changed)
    (inside : u <:+: upper w) :
    ¬ SameLetters w u := by
  intro same
  have fewer := occurrences_upper_lt member altered
  rw [← same.occurrences_eq] at fewer
  exact absurd (inside.sublist.countP_le) (Nat.not_le.2 fewer)

end SchemaHistory
