import Mathlib.Algebra.GroupWithZero.Nat
import Mathlib.Data.List.Induction
import SchemaHistory.History.Basic

/-!
Counting labels: each label once, in the order of first occurrence, with the number of its occurrences.
-/

namespace SchemaHistory

/-- Taking out repetitions leaves none. -/
theorem nodup_eraseDups {α : Type} [BEq α] [LawfulBEq α] (l : List α) : l.eraseDups.Nodup := by
  induction n : l.length using Nat.strongRecOn generalizing l with
  | _ n ih =>
    subst n
    cases l with
    | nil => exact List.nodup_nil
    | cons a rest =>
      have shorter : (rest.filter fun b => !b == a).length < (a :: rest).length :=
        Nat.lt_succ_of_le (List.length_filter_le _ rest)
      have fresh : a ∉ (rest.filter fun b => !b == a).eraseDups := by simp
      rw [List.eraseDups_cons]
      exact List.nodup_cons.2 ⟨fresh, ih _ shorter _ rfl⟩

/-- A last element is new, or it is left out. -/
theorem eraseDups_concat {α : Type} [DecidableEq α] (l : List α) (a : α) :
    (l ++ [a]).eraseDups = if a ∈ l then l.eraseDups else l.eraseDups ++ [a] := by
  rw [List.eraseDups_append]
  split
  · rename_i known
    have old : [a].removeAll l = [] := by simp [List.removeAll, known]
    rw [old, List.eraseDups_nil, List.append_nil]
  · rename_i new
    have fresh : [a].removeAll l = [a] := by simp [List.removeAll, new]
    rw [fresh]
    simp [List.eraseDups_cons]

theorem count_concat (labels : List String) (label other : String) :
    (labels ++ [label]).count other =
      if other = label then labels.count other + 1 else labels.count other := by
  rw [List.count_append]
  split
  · rename_i same
    rw [same, List.count_singleton_self]
  · rename_i differ
    rw [List.count_singleton, if_neg (by simpa using Ne.symm differ), Nat.add_zero]

/-- A label that is new is appended with the count one. -/
theorem countLabel_of_notMem {label : String} {counts : List (String × Nat)}
    (new : label ∉ counts.map (·.1)) : countLabel label counts = counts ++ [(label, 1)] := by
  induction counts with
  | nil => rfl
  | cons entry rest ih =>
    obtain ⟨other, n⟩ := entry
    simp only [List.map_cons, List.mem_cons, not_or] at new
    have differ : (other == label) = false := beq_eq_false_iff_ne.2 (Ne.symm new.1)
    rw [countLabel, differ, ih new.2]
    rfl

/-- A label that is there gets one more, and no other label does. -/
theorem countLabel_map_of_mem {label : String} {keys : List String} (distinct : keys.Nodup)
    (known : label ∈ keys) (count : String → Nat) :
    countLabel label (keys.map fun key => (key, count key)) =
      keys.map fun key => (key, if key = label then count key + 1 else count key) := by
  induction keys with
  | nil => simp at known
  | cons key rest ih =>
    rw [List.nodup_cons] at distinct
    simp only [List.map_cons, countLabel]
    by_cases same : key = label
    · subst same
      -- the other keys are other labels
      have others : ∀ k ∈ rest, ¬ k = key := fun k hk equal => distinct.1 (equal ▸ hk)
      simp only [beq_self_eq_true, if_true, List.cons.injEq, true_and]
      exact List.map_congr_left fun k hk => by rw [if_neg (others k hk)]
    · have later : label ∈ rest := (List.mem_cons.1 known).resolve_left (Ne.symm same)
      simp [same, ih distinct.2 later]

theorem tally_concat (labels : List String) (label : String) :
    tally (labels ++ [label]) = countLabel label (tally labels) := by
  rw [tally, List.foldl_append]
  rfl

/-- A tally has each label once, in the order of first occurrence, with the number of its
occurrences. -/
theorem tally_eq (labels : List String) :
    tally labels = labels.eraseDups.map fun label => (label, labels.count label) := by
  induction labels using List.reverseRecOn with
  | nil => rfl
  | append_singleton labels label ih =>
    rw [tally_concat, ih, eraseDups_concat]
    simp only [count_concat]
    split
    · rename_i known
      exact countLabel_map_of_mem (nodup_eraseDups labels) (List.mem_eraseDups.2 known) _
    · rename_i new
      have absent : label ∉ (labels.eraseDups.map fun l => (l, labels.count l)).map (·.1) := by
        simpa using new
      have others : ∀ l ∈ labels.eraseDups, ¬ l = label := fun l member same =>
        new (List.mem_eraseDups.1 (same ▸ member))
      rw [countLabel_of_notMem absent, List.map_append]
      congr 1
      · exact List.map_congr_left fun l member => by rw [if_neg (others l member)]
      · simp [List.count_eq_zero.2 new]

/-- A tally has the labels that occur, each with the number of its occurrences. -/
theorem mem_tally_iff {labels : List String} {label : String} {n : Nat} :
    (label, n) ∈ tally labels ↔ label ∈ labels ∧ n = labels.count label := by
  rw [tally_eq, List.mem_map]
  constructor
  · rintro ⟨other, member, equal⟩
    obtain ⟨rfl, rfl⟩ := Prod.mk.inj equal
    exact ⟨List.mem_eraseDups.1 member, rfl⟩
  · rintro ⟨member, rfl⟩
    exact ⟨label, List.mem_eraseDups.2 member, rfl⟩

theorem sum_countLabel (label : String) (counts : List (String × Nat)) :
    ((countLabel label counts).map (·.2)).sum = (counts.map (·.2)).sum + 1 := by
  induction counts with
  | nil => rfl
  | cons entry rest ih =>
    obtain ⟨other, n⟩ := entry
    rw [countLabel]
    split
    · simp only [List.map_cons, List.sum_cons]
      omega
    · simp only [List.map_cons, List.sum_cons, ih]
      omega

/-- The counts of a tally sum to the number of labels. -/
theorem sum_tally (labels : List String) : ((tally labels).map (·.2)).sum = labels.length := by
  induction labels using List.reverseRecOn with
  | nil => rfl
  | append_singleton labels label ih =>
    rw [tally_concat, sum_countLabel, ih, List.length_append, List.length_singleton]

/-- Leaving labels out lets no count grow, and brings in no label. -/
theorem tally_le_of_sublist {fewer labels : List String} (sub : fewer.Sublist labels)
    {label : String} {n : Nat} (entry : (label, n) ∈ tally fewer) :
    ∃ m, (label, m) ∈ tally labels ∧ n ≤ m := by
  obtain ⟨member, rfl⟩ := mem_tally_iff.1 entry
  exact ⟨labels.count label, mem_tally_iff.2 ⟨sub.subset member, rfl⟩, sub.count_le label⟩

end SchemaHistory
