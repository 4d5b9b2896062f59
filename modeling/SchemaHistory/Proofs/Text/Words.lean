import SchemaHistory.Proofs.Text.Pieces
import SchemaHistory.Sql.Normal

/-!
The words of a text, character by character, and small letters in ASCII texts.

A character that is no blank goes to the word that starts behind it, or is a word of its own where a blank
or nothing follows it. Put together with single spaces, the words are the text without the blanks at its
ends and with one space for each run of blanks.
-/

namespace SchemaHistory

variable {c d : Char} {cs : List Char}

/-! ### Words -/

/-- A blank at the start of a text makes no difference. -/
theorem words_blank_cons (blank : isBlank c = true) (cs : List Char) : words (c :: cs) = words cs := by
  rw [words, pieces, if_pos blank]
  rfl

/-- A character before a blank is a word of its own. -/
theorem words_cons_blank_cons (visible : isBlank c = false) (blank : isBlank d = true)
    (cs : List Char) : words (c :: d :: cs) = [c] :: words cs := by
  rw [words, pieces, visible, if_neg Bool.false_ne_true, pieces, if_pos blank]
  rfl

/-- A character before another goes to its word. -/
theorem exists_words_cons_cons (visible : isBlank c = false) (visible' : isBlank d = false)
    (cs : List Char) :
    ∃ w ws, words (d :: cs) = w :: ws ∧ words (c :: d :: cs) = (c :: w) :: ws := by
  obtain ⟨m, ms, split⟩ := exists_pieces_eq_cons isBlank cs
  have later : pieces isBlank (d :: cs) = (d :: m) :: ms := by
    rw [pieces, visible', if_neg Bool.false_ne_true, split, consPiece]
  refine ⟨d :: m, ms.filter (!·.isEmpty), ?_, ?_⟩
  · rw [words, later]
    rfl
  · rw [words, pieces, visible, if_neg Bool.false_ne_true, later]
    rfl

theorem words_eq_nil_iff : words cs = [] ↔ cs.all isBlank = true := by
  induction cs with
  | nil => simp [words, pieces]
  | cons c cs ih =>
    cases blank : isBlank c with
    | true => rw [words_blank_cons blank, ih, List.all_cons, blank, Bool.true_and]
    | false =>
      have some : words (c :: cs) ≠ [] := by
        cases cs with
        | nil => simp [words, pieces, blank, consPiece]
        | cons d cs =>
          cases blank' : isBlank d with
          | true => simp [words_cons_blank_cons blank blank']
          | false =>
            obtain ⟨w, ws, -, both⟩ := exists_words_cons_cons blank blank' cs
            simp [both]
      simp [some, blank]

/-! ### Words with single spaces -/

/-- The words of a text with single spaces between them. -/
def spaced (cs : List Char) : List Char := joinWith ' ' (words cs)

theorem spaced_blank_cons (blank : isBlank c = true) (cs : List Char) :
    spaced (c :: cs) = spaced cs := by
  rw [spaced, words_blank_cons blank, spaced]

theorem spaced_singleton (visible : isBlank c = false) : spaced [c] = [c] := by
  simp [spaced, words, pieces, visible, consPiece, joinWith]

theorem spaced_cons_cons (visible : isBlank c = false) (visible' : isBlank d = false)
    (cs : List Char) : spaced (c :: d :: cs) = c :: spaced (d :: cs) := by
  obtain ⟨w, ws, here, both⟩ := exists_words_cons_cons visible visible' cs
  rw [spaced, spaced, here, both]
  exact joinWith_append_head ' ' [c] w ws

/-- Of the blanks behind a character nothing is left at the end of a text. -/
theorem spaced_cons_of_blank (visible : isBlank c = false) (blank : isBlank d = true)
    (nothing : cs.all isBlank = true) : spaced (c :: d :: cs) = [c] := by
  rw [spaced, words_cons_blank_cons visible blank, words_eq_nil_iff.2 nothing]
  simp [joinWith]

/-- Blanks between words become one space. -/
theorem spaced_cons_blank_cons (visible : isBlank c = false) (blank : isBlank d = true)
    (something : ¬ cs.all isBlank = true) : spaced (c :: d :: cs) = c :: ' ' :: spaced (d :: cs) := by
  obtain ⟨w, ws, here⟩ := List.exists_cons_of_ne_nil (mt words_eq_nil_iff.1 something)
  rw [spaced_blank_cons blank, spaced, spaced, words_cons_blank_cons visible blank, here,
    joinWith_cons_cons]
  rfl

/-! ### ASCII -/

/-- Whether a character is one of the first 128. -/
def isAscii (c : Char) : Bool := c.toNat < 128

/-- What holds of the first 128 code points holds of the characters of ASCII. -/
theorem of_isAscii {p : Char → Prop} (ascii : isAscii c = true)
    (all : ∀ n < 128, p (Char.ofNat n)) : p c := by
  rw [← c.ofNat_toNat]
  exact all _ (of_decide_eq_true ascii)

theorem isAscii_toLower (ascii : isAscii c = true) : isAscii c.toLower = true :=
  of_isAscii (p := fun c => isAscii c.toLower = true) ascii (by decide)

theorem toLower_toLower (ascii : isAscii c = true) : c.toLower.toLower = c.toLower :=
  of_isAscii (p := fun c => c.toLower.toLower = c.toLower) ascii (by decide)

theorem lowerChar_of_isAscii (ascii : isAscii c = true) :
    (c == 'Σ') = false ∧ lowerChar c = [c.toLower] :=
  of_isAscii (p := fun c => (c == 'Σ') = false ∧ lowerChar c = [c.toLower]) ascii (by decide)

/-- In ASCII every letter is made small on its own. -/
theorem lower_of_ascii (ascii : cs.all isAscii = true) : lower cs = cs.map Char.toLower := by
  have alone : ∀ before, lowerAfter before cs = cs.map Char.toLower := by
    induction cs with
    | nil => exact fun _ => rfl
    | cons c cs ih =>
      rw [List.all_cons, Bool.and_eq_true] at ascii
      obtain ⟨other, small⟩ := lowerChar_of_isAscii ascii.1
      intro before
      rw [lowerAfter, other, if_neg Bool.false_ne_true, small, ih ascii.2]
      rfl
  exact alone []

/-- What is in small letters already stays as it is. -/
theorem lower_map_toLower (ascii : cs.all isAscii = true) :
    lower (cs.map Char.toLower) = lower cs := by
  rw [List.all_eq_true] at ascii
  have small : (cs.map Char.toLower).all isAscii = true := by
    rw [List.all_map, List.all_eq_true]
    exact fun c member => isAscii_toLower (ascii c member)
  rw [lower_of_ascii small, lower_of_ascii (List.all_eq_true.2 ascii), List.map_map]
  exact List.map_congr_left fun c member => toLower_toLower (ascii c member)

/-- Spaces between words bring in no characters but ASCII. -/
theorem all_isAscii_spaced (ascii : cs.all isAscii = true) : (spaced cs).all isAscii = true := by
  rw [List.all_eq_true] at ascii ⊢
  intro c member
  by_cases space : c = ' '
  · rw [space]
    rfl
  · obtain ⟨w, word, inside⟩ := exists_mem_of_mem_joinWith member space
    exact ascii c (subset_of_mem_pieces (List.mem_filter.1 word).1 inside)

end SchemaHistory
