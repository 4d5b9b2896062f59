import SchemaHistory.Proofs.Text.Lower
import SchemaHistory.Proofs.Text.Worded

/-!
What it means that two statements are equivalent.

The normal form of a statement is made small as a whole, but no letter looks past a space, so that every word
is made small on its own. Words with single spaces between them can be told apart again: two statements
have one normal form if and only if they have the same words but for their case.
-/

namespace SchemaHistory

variable {a b w : List Char} {ws : List (List Char)}

/-! ### Words in small letters -/

/-- Words with spaces between them are made small one by one. -/
theorem lower_joinWith (ws : List (List Char)) :
    lower (joinWith ' ' ws) = joinWith ' ' (ws.map lower) := by
  induction ws with
  | nil => rfl
  | cons w rest ih =>
    cases rest with
    | nil => simp [joinWith]
    | cons w' rest =>
      rw [joinWith_cons_cons, lower_append_space, ih]
      exact (joinWith_cons_cons ' ' (lower w) (lower w') (rest.map lower)).symm

theorem IsWord.lower (word : IsWord w) : IsWord (lower w) where
  nonempty := lower_ne_nil word.nonempty
  visible _ member := isBlank_of_mem_lower word.visible member

/-! ### Single spaces -/

/-- A text without blanks at its ends, and with single spaces for the blanks in it. -/
structure SingleSpaced (cs : List Char) : Prop where
  first : ∀ c ∈ cs.head?, isBlank c = false
  last : ∀ c ∈ cs.getLast?, isBlank c = false
  single : ∀ before c rest, cs = before ++ c :: rest → isBlank c = true →
    c = ' ' ∧ ∀ d ∈ rest.head?, isBlank d = false

theorem IsWord.singleSpaced (word : IsWord w) : SingleSpaced w where
  first c head := word.visible c (List.mem_of_head? head)
  last c last := word.visible c (List.mem_of_getLast? last)
  single before c rest parted blank := by
    rw [word.visible c (by simp [parted])] at blank
    exact absurd blank Bool.false_ne_true

/-- Two such texts are one with a space between them. -/
theorem SingleSpaced.append_space (left : SingleSpaced a) (right : SingleSpaced b) (nonempty : a ≠ [])
    (nonempty' : b ≠ []) : SingleSpaced (a ++ ' ' :: b) where
  first c head := left.first c (by rwa [List.head?_append_of_ne_nil a nonempty] at head)
  last c last := right.last c (by
    obtain ⟨d, rest, rfl⟩ := List.exists_cons_of_ne_nil nonempty'
    simpa [List.getLast?_append, List.getLast?_cons_cons] using last)
  single before c rest parted blank := by
    rcases List.append_eq_append_iff.1 parted with ⟨gap, rfl, behind⟩ | ⟨gap, rfl, behind⟩
    · rcases List.cons_eq_append_iff.1 behind with ⟨rfl, same⟩ | ⟨more, rfl, rfl⟩
      · obtain ⟨rfl, rfl⟩ := List.cons.inj same
        exact ⟨rfl, right.first⟩
      · exact right.single more c rest rfl blank
    · rcases List.cons_eq_append_iff.1 behind with ⟨rfl, same⟩ | ⟨more, rfl, rfl⟩
      · obtain ⟨rfl, rfl⟩ := List.cons.inj same
        exact ⟨rfl, right.first⟩
      · obtain ⟨rfl, seen⟩ := left.single before c more rfl blank
        refine ⟨rfl, ?_⟩
        cases more with
        | nil => exact absurd (left.last ' ' (by simp)) (by decide)
        | cons d more => exact seen

theorem singleSpaced_joinWith (each : ∀ w ∈ ws, IsWord w) : SingleSpaced (joinWith ' ' ws) := by
  induction ws with
  | nil => exact ⟨by simp [joinWith], by simp [joinWith], by simp [joinWith]⟩
  | cons w rest ih =>
    rw [List.forall_mem_cons] at each
    cases rest with
    | nil => simpa [joinWith] using each.1.singleSpaced
    | cons w' rest =>
      rw [joinWith_cons_cons]
      refine each.1.singleSpaced.append_space (ih each.2) each.1.nonempty fun nothing => ?_
      have some : words (joinWith ' ' (w' :: rest)) = w' :: rest := words_joinWith each.2
      rw [nothing] at some
      exact absurd some (List.cons_ne_nil _ _).symm

/-! ### The normal form -/

namespace Sql

/-- The normal form has every word in small letters, with single spaces. -/
theorem normalChars_eq (cs : List Char) : normalChars cs = joinWith ' ' ((words cs).map lower) :=
  lower_joinWith (words cs)

theorem isWord_of_mem_map_lower (cs : List Char) : ∀ w ∈ (words cs).map lower, IsWord w :=
  List.forall_mem_map.2 fun _ member => (isWord_of_mem_words member).lower

theorem words_normalChars (cs : List Char) : words (normalChars cs) = (words cs).map lower := by
  rw [normalChars_eq, words_joinWith (isWord_of_mem_map_lower cs)]

/-- Two texts have one normal form if they have the same words in small letters. -/
theorem normalChars_eq_iff : normalChars a = normalChars b ↔
    (words a).map lower = (words b).map lower := by
  constructor
  · intro same
    rw [← words_normalChars, same, words_normalChars]
  · intro same
    rw [normalChars_eq, same, normalChars_eq]

theorem normalChars_normalChars (cs : List Char) : normalChars (normalChars cs) = normalChars cs := by
  rw [normalChars_eq_iff, words_normalChars, List.map_map]
  exact List.map_congr_left fun w _ => lower_lower w

/-- Two statements are equivalent if and only if their words are the same, each in small letters: the words
are the runs of characters between blanks, and a text has them in one way only. The normal form of a normal
form is the form itself; it has no blanks at its ends, and single spaces for the blanks in it. -/
theorem equivalent_by_words (a b : String) :
    (equivalent a b = true ↔ (words a.toList).map lower = (words b.toList).map lower) ∧
      (∀ ws, Worded a.toList ws ↔ words a.toList = ws) ∧
      normal (normal a) = normal a ∧ SingleSpaced (normal a).toList := by
  have form : (normal a).toList = normalChars a.toList := String.toList_ofList
  refine ⟨?_, fun ws => worded_iff, ?_, ?_⟩
  · rw [equivalent, beq_iff_eq, normal, normal, String.ofList_inj, normalChars_eq_iff]
  · rw [normal, form, normalChars_normalChars, ← normal]
  · rw [form, normalChars_eq]
    exact singleSpaced_joinWith (isWord_of_mem_map_lower a.toList)

/-- A capital sigma is a final one at the end of each word, whatever follows the space. -/
example : String.ofList (normalChars "ΟΔΟΣ\u00A0\n ΣΑΣ İ".toList) = "οδος σας i\u0307" := by
  decide +kernel

end Sql

end SchemaHistory
