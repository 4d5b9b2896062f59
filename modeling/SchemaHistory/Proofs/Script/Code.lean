import SchemaHistory.Proofs.Script.Terminator
import SchemaHistory.Proofs.Text.Worded

/-!
The words of a script, statement by statement.

Line comments are cut off line by line. What is left has some words between each two terminators, and where
there are any, those are the words of a statement. A line break parts words but no statement, so the parts
of two lines add up in one way: the last of the one goes on with the first of the other. Blank lines add
nothing.
-/

namespace SchemaHistory.Sql

variable {x : Char} {blank line : List Char}

/-! ### Lines -/

/-- A line is code up to the first place where `--` stands. -/
theorem codeOfLine_cons (c : Char) (line : List Char) : codeOfLine (c :: line) =
    if ['-', '-'] <+: c :: line then [] else c :: codeOfLine line := by
  rw [codeOfLine, cutAt]
  by_cases here : ['-', '-'] <+: c :: line
  · rw [if_pos (List.isPrefixOf_iff_prefix.2 here), if_pos here]
  · rw [if_neg (mt List.isPrefixOf_iff_prefix.1 here), if_neg here, codeOfLine]
    cases cutAt ['-', '-'] line <;> rfl

/-- Every line of a text up to its first `--`. -/
def codeText (cs : List Char) : List Char :=
  joinWith '\n' ((pieces (· == '\n') cs).map codeOfLine)

theorem codeText_of_oneLine (oneLine : '\n' ∉ line) : codeText line = codeOfLine line := by
  rw [codeText, pieces_of_notMem oneLine]
  exact List.intercalate_singleton

theorem codeText_append_cons (a b : List Char) :
    codeText (a ++ '\n' :: b) = codeText a ++ '\n' :: codeText b := by
  have lines : ∀ cs : List Char, (pieces (· == '\n') cs).map codeOfLine ≠ [] := fun cs =>
    mt List.map_eq_nil_iff.1 (pieces_ne_nil _ cs)
  rw [codeText, pieces_append_cons (by rfl), List.map_append, joinWith_append (lines a) (lines b)]
  rfl

/-! ### Parts -/

section Glue

variable {α : Type} {ls ms : List (List α)}

/-- The parts of a whole that is parted in the same way, the last of the one half going on with the first of
the other. -/
def glue : List (List α) → List (List α) → List (List α)
  | [], ms => ms
  | [l], m :: ms => (l ++ m) :: ms
  | l :: ls, ms => l :: glue ls ms

theorem glue_concat (ls : List (List α)) (l m : List α) (ms : List (List α)) :
    glue (ls ++ [l]) (m :: ms) = ls ++ (l ++ m) :: ms := by
  induction ls with
  | nil => rfl
  | cons p ps ih =>
    obtain ⟨q, qs, split⟩ := List.exists_cons_of_ne_nil (List.append_ne_nil_of_right_ne_nil ps
      (List.cons_ne_nil l []))
    rw [split] at ih
    rw [List.cons_append, split, glue, ih, List.cons_append]
    rintro _ _ _ ⟨⟩

theorem glue_nil_left (nonempty : ms ≠ []) : glue [[]] ms = ms := by
  obtain ⟨m, ms, rfl⟩ := List.exists_cons_of_ne_nil nonempty
  rfl

theorem glue_nil_right (nonempty : ls ≠ []) : glue ls [[]] = ls := by
  obtain ⟨ls, l, rfl⟩ := (List.eq_nil_or_concat' ls).resolve_left nonempty
  rw [glue_concat, List.append_nil]

end Glue

/-- The words of each part of a text between its terminators. -/
def wordParts (cs : List Char) : List (List (List Char)) := (pieces (· == ';') cs).map words

theorem wordParts_ne_nil (cs : List Char) : wordParts cs ≠ [] :=
  mt List.map_eq_nil_iff.1 (pieces_ne_nil _ cs)

theorem wordParts_blank (blanks : blank.all isBlank = true) : wordParts blank = [[]] := by
  rw [wordParts, pieces_blank blanks, List.map_singleton, words_eq_nil_iff.2 blanks]

/-- A blank parts words, but no statements. -/
theorem wordParts_append_cons (here : isBlank x = true) (a b : List Char) :
    wordParts (a ++ x :: b) = glue (wordParts a) (wordParts b) := by
  obtain ⟨ls, l, ends⟩ := exists_pieces_eq_concat (· == ';') a
  obtain ⟨m, ms, starts⟩ := exists_pieces_eq_cons (· == ';') b
  have other : (x == ';') = false := by
    rw [beq_eq_false_iff_ne]
    rintro rfl
    exact absurd here (by decide)
  have goesOn : pieces (· == ';') (x :: b) = (x :: m) :: ms := by
    rw [pieces, other, starts]
    rfl
  rw [wordParts, pieces_append ends goesOn, wordParts, ends, wordParts, starts, List.map_append,
    List.map_cons, words_append_cons here, List.map_append, List.map_singleton, List.map_cons,
    glue_concat]

/-- The parts of joined lines are those of the lines, each line going on where the one before it ends. -/
theorem wordParts_joinWith (lines : List (List Char)) : wordParts (joinWith '\n' lines) =
    lines.foldr (fun line parts => glue (wordParts line) parts) [[]] := by
  induction lines with
  | nil => rfl
  | cons line rest ih =>
    cases rest with
    | nil => simp [joinWith, glue_nil_right (wordParts_ne_nil line)]
    | cons line' rest =>
      rw [joinWith_cons_cons, wordParts_append_cons (by decide), ih, List.foldr_cons (a := line)]

/-- Blank lines add nothing. -/
theorem wordParts_joinWith_filter (lines : List (List Char)) :
    wordParts (joinWith '\n' (lines.filter fun line => !line.all isBlank)) =
      wordParts (joinWith '\n' lines) := by
  rw [wordParts_joinWith, wordParts_joinWith]
  induction lines with
  | nil => rfl
  | cons line rest ih =>
    cases blanks : line.all isBlank with
    | true =>
      rw [List.filter_cons_of_neg (by simp [blanks]), ih, List.foldr_cons, wordParts_blank blanks,
        ← wordParts_joinWith, glue_nil_left (wordParts_ne_nil _)]
    | false =>
      rw [List.filter_cons_of_pos (by simp [blanks]), List.foldr_cons, List.foldr_cons, ih]

theorem wordParts_withoutLineComments (cs : List Char) :
    wordParts (withoutLineComments cs) = wordParts (codeText cs) :=
  wordParts_joinWith_filter ((pieces (· == '\n') cs).map codeOfLine)

/-! ### Statements -/

theorem words_splitStatements (cs : List Char) :
    (splitStatements cs).map words = (wordParts cs).filter (!·.isEmpty) := by
  have empty : ∀ p : List Char, (trim p).isEmpty = (words p).isEmpty := fun p => by
    rw [Bool.eq_iff_iff, List.isEmpty_iff, List.isEmpty_iff, trim_eq_nil_iff]
  rw [splitStatements, wordParts, List.filter_map, List.map_map, List.filter_map]
  have kept : ((fun p : List Char => !p.isEmpty) ∘ trim) = (fun ws => !ws.isEmpty) ∘ words :=
    funext fun p => congrArg not (empty p)
  rw [kept]
  exact List.map_congr_left fun p _ => words_trim p

/-- The words of the statements are the words between terminators outside of comments, where there are
any. -/
theorem words_statementsOf (cs : List Char) : (statementsOf cs).map words =
    (wordParts (codeText (withoutBlocks cs))).filter (!·.isEmpty) := by
  rw [statementsOf, words_splitStatements, wordParts_withoutLineComments]

end SchemaHistory.Sql
