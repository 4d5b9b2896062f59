import SchemaHistory.Proofs.Script.Comment
import SchemaHistory.Proofs.Text.Trim

/-!
Terminators, and how the statements of a text add up.

A `;` parts a text in two that are read one after the other, if it stands in no comment: every block
comment before it is closed, and no line comment starts before it on its line. The blanks at the ends of
both parts go, so that it makes no difference whether a line is cut in two.
-/

namespace SchemaHistory.Sql

variable {a cs line blank : List Char}

/-! ### Cutting at terminators -/

theorem splitStatements_append_cons (a b : List Char) :
    splitStatements (a ++ ';' :: b) = splitStatements a ++ splitStatements b := by
  rw [splitStatements, pieces_append_cons (by rfl), List.map_append, List.filter_append]
  rfl

/-- A text without terminators is one statement, or none if it is blank. -/
theorem splitStatements_of_notMem (absent : ';' ∉ cs) :
    splitStatements cs = [trim cs].filter (!·.isEmpty) := by
  have whole : ∀ c ∈ cs, (c == ';') = false := fun c member =>
    beq_eq_false_iff_ne.2 fun same => absent (same ▸ member)
  rw [splitStatements, pieces_of_forall whole]
  rfl

theorem notMem_of_blank (blanks : blank.all isBlank = true) : ';' ∉ blank := fun member =>
  absurd (List.all_eq_true.1 blanks _ member) (by decide)

theorem splitStatements_blank (blanks : blank.all isBlank = true) : splitStatements blank = [] := by
  rw [splitStatements_of_notMem (notMem_of_blank blanks), trim_eq_nil_of_blank blanks]
  rfl

theorem pieces_blank (blanks : blank.all isBlank = true) : pieces (· == ';') blank = [blank] :=
  pieces_of_notMem (notMem_of_blank blanks)

theorem splitStatements_blank_append (blanks : blank.all isBlank = true) (cs : List Char) :
    splitStatements (blank ++ cs) = splitStatements cs := by
  obtain ⟨m, ms, split⟩ := exists_pieces_eq_cons (· == ';') cs
  have alone : pieces (· == ';') blank = [] ++ [blank] := pieces_blank blanks
  rw [splitStatements, pieces_append alone split, List.nil_append,
    List.map_cons, trim_blank_append blanks, splitStatements, split, List.map_cons]

theorem splitStatements_append_blank (blanks : blank.all isBlank = true) (cs : List Char) :
    splitStatements (cs ++ blank) = splitStatements cs := by
  obtain ⟨ms, m, split⟩ := exists_pieces_eq_concat (· == ';') cs
  rw [splitStatements, pieces_append split (pieces_blank blanks), List.map_append, List.map_cons,
    trim_append_blank blanks, splitStatements, split, List.map_append]
  rfl

/-! ### Lines -/

/-- A line without a line comment is code to its end. -/
theorem codeOfLine_of_absent (absent : ¬ ['-', '-'] <:+: line) : codeOfLine line = line := by
  rw [codeOfLine, (cutAt_eq_none_iff (List.cons_ne_nil _ _)).2 absent]

/-- Behind code that starts no line comment, a terminator is code too. -/
theorem codeOfLine_append_cons (absent : ¬ ['-', '-'] <:+: line) (rest : List Char) :
    codeOfLine (line ++ ';' :: rest) = line ++ ';' :: codeOfLine rest := by
  rw [codeOfLine, cutAt_append_cons (by decide) absent, codeOfLine]
  cases cutAt ['-', '-'] rest <;> rfl

/-- No line comment starts on the last line of a text. -/
def EndsInCode (cs : List Char) : Prop :=
  ∀ line ∈ (pieces (· == '\n') cs).getLast?, ¬ ['-', '-'] <:+: line

/-- A text without `--` ends in code. -/
theorem EndsInCode.of_absent (absent : ¬ ['-', '-'] <:+: cs) : EndsInCode cs := by
  intro line last inside
  exact absent (inside.trans (infix_of_mem_pieces (List.mem_of_getLast? last)))

theorem codeOfLines_singleton (line : List Char) : codeOfLines [line] =
    if (codeOfLine line).all isBlank then [] else [codeOfLine line] := by
  cases blanks : (codeOfLine line).all isBlank <;> simp [codeOfLines, blanks]

/-- Whether a blank line at the end goes or stays, the statements are the same. -/
theorem splitStatements_append_codeOfLines (code : List (List Char)) (line : List Char) :
    splitStatements (joinWith '\n' (code ++ codeOfLines [line])) =
      splitStatements (joinWith '\n' (code ++ [codeOfLine line])) := by
  rw [codeOfLines_singleton]
  split
  · rename_i blanks
    rw [List.append_nil]
    by_cases empty : code = []
    · have alone : joinWith '\n' [codeOfLine line] = codeOfLine line := List.intercalate_singleton
      rw [empty, List.nil_append, alone, splitStatements_blank blanks]
      rfl
    · rw [joinWith_append empty (List.cons_ne_nil _ _)]
      refine (splitStatements_append_blank ?_ _).symm
      simpa [joinWith, show isBlank '\n' = true by decide] using blanks
  · rfl

/-- Whether a blank line at the start goes or stays, the statements are the same. -/
theorem splitStatements_codeOfLines_append (line : List Char) (code : List (List Char)) :
    splitStatements (joinWith '\n' (codeOfLines [line] ++ code)) =
      splitStatements (joinWith '\n' ([codeOfLine line] ++ code)) := by
  rw [codeOfLines_singleton]
  split
  · rename_i blanks
    rw [List.nil_append]
    have alone : joinWith '\n' [codeOfLine line] = codeOfLine line := List.intercalate_singleton
    by_cases empty : code = []
    · rw [empty, List.append_nil, alone, splitStatements_blank blanks]
      rfl
    · rw [joinWith_append (List.cons_ne_nil _ _) empty, alone, List.append_cons]
      refine (splitStatements_blank_append ?_ _).symm
      simpa [show isBlank '\n' = true by decide] using blanks
  · rfl

/-- A terminator parts a text without block comments that ends in code. -/
theorem splitStatements_withoutLineComments_append_cons (ends : EndsInCode a) (b : List Char) :
    splitStatements (withoutLineComments (a ++ ';' :: b)) =
      splitStatements (withoutLineComments a) ++ splitStatements (withoutLineComments b) := by
  obtain ⟨ls, l, linesA⟩ := exists_pieces_eq_concat (· == '\n') a
  obtain ⟨m, ms, linesB⟩ := exists_pieces_eq_cons (· == '\n') b
  have code : ¬ ['-', '-'] <:+: l := ends l (by rw [linesA]; simp)
  have lines : pieces (· == '\n') (a ++ ';' :: b) = ls ++ (l ++ ';' :: m) :: ms :=
    pieces_append linesA (by rw [pieces, linesB]; rfl)
  -- the line of the terminator is not blank, and it is code up to there
  have all : codeLines (a ++ ';' :: b) =
      codeOfLines ls ++ (l ++ ';' :: codeOfLine m) :: codeOfLines ms := by
    rw [codeLines, lines, codeOfLines_append]
    simp [codeOfLines, codeOfLine_append_cons code, show isBlank ';' = false by decide]
  have before : codeLines a = codeOfLines ls ++ codeOfLines [l] := by
    rw [codeLines, linesA, codeOfLines_append]
  have behind : codeLines b = codeOfLines [m] ++ codeOfLines ms := by
    rw [codeLines, linesB, ← codeOfLines_append, List.singleton_append]
  have parted : joinWith '\n' ((';' :: codeOfLine m) :: codeOfLines ms) =
      ';' :: joinWith '\n' ([codeOfLine m] ++ codeOfLines ms) :=
    joinWith_append_head '\n' [';'] (codeOfLine m) (codeOfLines ms)
  rw [withoutLineComments_eq, withoutLineComments_eq, withoutLineComments_eq, all, before, behind,
    joinWith_append_cons, parted, splitStatements_append_cons, splitStatements_append_codeOfLines,
    splitStatements_codeOfLines_append, codeOfLine_of_absent code]

/-- The statements of a text that is parted by a terminator in code are those of both parts. -/
theorem statementsOf_append_cons (closed : BlocksClosed a) (ends : EndsInCode (withoutBlocks a))
    (b : List Char) : statementsOf (a ++ ';' :: b) = statementsOf a ++ statementsOf b := by
  rw [statementsOf, withoutBlocks_append_cons closed (by decide) (by decide),
    splitStatements_withoutLineComments_append_cons ends]
  rfl

end SchemaHistory.Sql
