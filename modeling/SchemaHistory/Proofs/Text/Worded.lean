import SchemaHistory.Proofs.Text.Trim
import SchemaHistory.Proofs.Text.Words

/-!
The words of a text as its longest runs of characters that are not blank.

A text comes apart into words and the blanks around them in one way only. A blank parts the words before it
from those behind it, so that words with a space between neighbours are read as they were, and the blanks
at the ends of a text make no difference.
-/

namespace SchemaHistory

variable {x : Char} {blank cs w : List Char} {ws : List (List Char)}

/-! ### Runs -/

/-- A text with something in it, but no blank. -/
structure IsWord (w : List Char) : Prop where
  nonempty : w ≠ []
  visible : ∀ c ∈ w, isBlank c = false

/-- The text is made of the words, in their order, and of blanks around them. Each word ends before a blank
or at the end of the text. -/
inductive Worded : List Char → List (List Char) → Prop where
  | blank {cs : List Char} (gap : cs.all isBlank = true) : Worded cs []
  | word {before w rest : List Char} {ws : List (List Char)} (gap : before.all isBlank = true)
      (first : IsWord w) (stops : ∀ c ∈ rest.head?, isBlank c = true) (more : Worded rest ws) :
      Worded (before ++ (w ++ rest)) (w :: ws)

/-- A blank parts the words before it from those behind it. -/
theorem words_append_cons (here : isBlank x = true) (a b : List Char) :
    words (a ++ x :: b) = words a ++ words b := by
  rw [words, pieces_append_cons here, List.filter_append]
  rfl

theorem words_blank_append (blanks : blank.all isBlank = true) (cs : List Char) :
    words (blank ++ cs) = words cs := by
  induction blank with
  | nil => rfl
  | cons c rest ih =>
    rw [List.all_cons, Bool.and_eq_true] at blanks
    rw [List.cons_append, words_blank_cons blanks.1, ih blanks.2]

theorem words_append_blank (blanks : blank.all isBlank = true) (cs : List Char) :
    words (cs ++ blank) = words cs := by
  cases blank with
  | nil => rw [List.append_nil]
  | cons c rest =>
    rw [List.all_cons, Bool.and_eq_true] at blanks
    rw [words_append_cons blanks.1, words_eq_nil_iff.2 blanks.2, List.append_nil]

/-- A word is the only word in it. -/
theorem IsWord.words_eq (word : IsWord w) : words w = [w] := by
  rw [words, pieces_of_forall word.visible]
  simp [word.nonempty]

theorem words_of_worded (worded : Worded cs ws) : words cs = ws := by
  induction worded with
  | blank gap => exact words_eq_nil_iff.2 gap
  | @word before w rest ws gap first stops _ ih =>
    rw [words_blank_append gap]
    cases rest with
    | nil =>
      rw [List.append_nil, first.words_eq, ← ih]
      rfl
    | cons d rest =>
      have blank : isBlank d = true := stops d rfl
      rw [words_append_cons blank, first.words_eq, ← ih, words_blank_cons blank]
      rfl

theorem Worded.blank_cons (here : isBlank x = true) (worded : Worded cs ws) : Worded (x :: cs) ws := by
  cases worded with
  | blank gap => exact .blank (by rw [List.all_cons, here, gap]; rfl)
  | @word before w rest ws gap first stops more =>
    have wider : (x :: before).all isBlank = true := by rw [List.all_cons, here, gap]; rfl
    exact .word wider first stops more

theorem Worded.word_append {rest : List Char} (first : IsWord w)
    (stops : ∀ c ∈ rest.head?, isBlank c = true) (more : Worded rest ws) : Worded (w ++ rest) (w :: ws) := by
  have nothing : ([] : List Char).all isBlank = true := rfl
  exact .word nothing first stops more

theorem exists_worded (cs : List Char) : ∃ ws, Worded cs ws := by
  induction cs with
  | nil => exact ⟨[], .blank rfl⟩
  | cons c cs ih =>
    obtain ⟨ws, worded⟩ := ih
    cases here : isBlank c with
    | true => exact ⟨ws, worded.blank_cons here⟩
    | false =>
      have alone : IsWord [c] := ⟨List.cons_ne_nil c [], by simpa using here⟩
      cases worded with
      | blank gap =>
        refine ⟨[[c]], .word_append alone (fun d head => ?_) (.blank gap)⟩
        exact List.all_eq_true.1 gap d (List.mem_of_head? head)
      | @word before w rest ws gap first stops more =>
        cases before with
        | nil =>
          -- one more character at the start of the first word
          have longer : IsWord (c :: w) :=
            ⟨List.cons_ne_nil c w, List.forall_mem_cons.2 ⟨here, first.visible⟩⟩
          exact ⟨(c :: w) :: ws, .word_append longer stops more⟩
        | cons d before =>
          refine ⟨[c] :: w :: ws, .word_append alone ?_ (.word gap first stops more)⟩
          rw [List.all_cons, Bool.and_eq_true] at gap
          simpa using gap.1

/-- A text has the words that it is made of, and no others. -/
theorem worded_iff : Worded cs ws ↔ words cs = ws := by
  refine ⟨words_of_worded, ?_⟩
  rintro rfl
  obtain ⟨ws, worded⟩ := exists_worded cs
  rwa [words_of_worded worded]

/-! ### What is in words -/

theorem Worded.isWord (worded : Worded cs ws) : ∀ w ∈ ws, IsWord w := by
  induction worded with
  | blank => exact fun _ member => absurd member List.not_mem_nil
  | word _ first _ _ ih => exact List.forall_mem_cons.2 ⟨first, ih⟩

/-- No word is empty or has a blank in it. -/
theorem isWord_of_mem_words (member : w ∈ words cs) : IsWord w :=
  (worded_iff.2 rfl : Worded cs (words cs)).isWord w member

/-- The characters of a text that are not blank. -/
def visible (cs : List Char) : List Char := cs.filter (!isBlank ·)

theorem visible_append (a b : List Char) : visible (a ++ b) = visible a ++ visible b :=
  List.filter_append ..

theorem visible_of_blank (blanks : blank.all isBlank = true) : visible blank = [] := by
  rw [visible, List.filter_eq_nil_iff]
  intro c member
  simpa using List.all_eq_true.1 blanks c member

/-- All that is not blank is in the words, in the same order. -/
theorem flatten_words (cs : List Char) : (words cs).flatten = visible cs := by
  have worded : Worded cs (words cs) := worded_iff.2 rfl
  generalize words cs = ws at worded
  induction worded with
  | blank gap => exact (visible_of_blank gap).symm
  | @word before w rest ws gap first _ _ ih =>
    have whole : visible w = w := List.filter_eq_self.2 fun c member => by
      rw [first.visible c member]
      rfl
    rw [List.flatten_cons, ih, visible_append, visible_of_blank gap, visible_append, whole]
    rfl

/-- Words with a space between neighbours are read as they were. -/
theorem words_joinWith (each : ∀ w ∈ ws, IsWord w) : words (joinWith ' ' ws) = ws := by
  induction ws with
  | nil => rfl
  | cons w rest ih =>
    rw [List.forall_mem_cons] at each
    have first : words w = [w] := each.1.words_eq
    cases rest with
    | nil => simpa [joinWith] using first
    | cons w' rest =>
      rw [joinWith_cons_cons, words_append_cons (by decide), first, ih each.2]
      rfl

/-! ### Trimming -/

theorem words_trim (cs : List Char) : words (trim cs) = words cs := by
  have start : ∀ l : List Char, words (trimStart l) = words l := fun l => by
    have whole := words_blank_append (List.all_takeWhile (p := isBlank) (l := l)) (trimStart l)
    rwa [trimStart, List.takeWhile_append_dropWhile, eq_comm] at whole
  have stop : ∀ l : List Char, words (trimEnd l) = words l := fun l => by
    have blanks : (l.reverse.takeWhile isBlank).reverse.all isBlank = true := by
      rw [List.all_reverse]
      exact List.all_takeWhile
    have whole := words_append_blank blanks (trimEnd l)
    rwa [trimEnd, ← List.reverse_append, List.takeWhile_append_dropWhile, List.reverse_reverse,
      eq_comm] at whole
  rw [trim, stop, start]

/-- Nothing is left of a text between the blanks at its ends if it has no words. -/
theorem trim_eq_nil_iff : trim cs = [] ↔ words cs = [] := by
  constructor
  · intro nothing
    rw [← words_trim, nothing]
    rfl
  · exact fun nothing => trim_eq_nil_of_blank (words_eq_nil_iff.1 nothing)

end SchemaHistory
