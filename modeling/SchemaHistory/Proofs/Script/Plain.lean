import SchemaHistory.Proofs.Script.Terminator

/-!
Texts without comments and without terminators.

Such a text is a single statement. It is read as it is written, but for blank lines in it and for blanks
at its ends.
-/

namespace SchemaHistory.Sql

variable {a b p rest : List Char} {x : Char}

/-- Nothing in the text ends a statement or starts a comment. -/
structure Plain (cs : List Char) : Prop where
  noTerminator : ';' ∉ cs
  noLineComment : ¬ ['-', '-'] <:+: cs
  noBlock : ¬ ['/', '*'] <:+: cs

instance (cs : List Char) : Decidable (Plain cs) :=
  decidable_of_iff (';' ∉ cs ∧ ¬ ['-', '-'] <:+: cs ∧ ¬ ['/', '*'] <:+: cs)
    ⟨fun ⟨h₁, h₂, h₃⟩ => ⟨h₁, h₂, h₃⟩, fun ⟨h₁, h₂, h₃⟩ => ⟨h₁, h₂, h₃⟩⟩

/-- Two plain texts are plain with a character in between that is part of no mark. -/
theorem plain_append_cons_iff (neutral : x ∉ [';', '-', '/', '*']) :
    Plain (a ++ x :: b) ↔ Plain a ∧ Plain b := by
  have dash : x ∉ ['-', '-'] := by simp_all
  have slash : x ∉ ['/', '*'] := by simp_all
  have other : ';' ≠ x := by rintro rfl; simp at neutral
  constructor
  · rintro ⟨terminator, comment, block⟩
    rw [List.mem_append, List.mem_cons, not_or, not_or] at terminator
    rw [infix_append_cons_iff dash, not_or] at comment
    rw [infix_append_cons_iff slash, not_or] at block
    exact ⟨⟨terminator.1, comment.1, block.1⟩, ⟨terminator.2.2, comment.2, block.2⟩⟩
  · rintro ⟨left, right⟩
    refine ⟨?_, ?_, ?_⟩
    · simp [left.noTerminator, right.noTerminator, other]
    · rw [infix_append_cons_iff dash, not_or]
      exact ⟨left.noLineComment, right.noLineComment⟩
    · rw [infix_append_cons_iff slash, not_or]
      exact ⟨left.noBlock, right.noBlock⟩

theorem plain_nil : Plain [] := ⟨by simp, by simp, by simp⟩

theorem Plain.blocksClosed {cs : List Char} (plain : Plain cs) : BlocksClosed cs := .plain plain.noBlock

/-- The statements of a plain text come first, and a terminator behind it parts them from the rest. -/
theorem Plain.statementsOf_append_cons (plain : Plain a) (b : List Char) :
    statementsOf (a ++ ';' :: b) = statementsOf a ++ statementsOf b := by
  refine Sql.statementsOf_append_cons plain.blocksClosed ?_ b
  rw [withoutBlocks_of_absent plain.noBlock]
  exact .of_absent plain.noLineComment

/-- The text without its blank lines. The first line stays, as it may go on with a line before it. -/
def closeUp (cs : List Char) : List Char :=
  match pieces (· == '\n') cs with
  | [] => []
  | first :: others => joinWith '\n' (first :: others.filter fun line => !line.all isBlank)

theorem closeUp_of_pieces {cs first : List Char} {others : List (List Char)}
    (lines : pieces (· == '\n') cs = first :: others) : closeUp cs =
      joinWith '\n' (first :: others.filter fun line => !line.all isBlank) := by
  rw [closeUp, lines]

theorem withoutLineComments_plain_append (oneLine : '\n' ∉ p) (trimmed : Trimmed p)
    (absent : ¬ ['-', '-'] <:+: p ++ rest) : withoutLineComments (p ++ rest) = p ++ closeUp rest := by
  obtain ⟨m, ms, split⟩ := exists_pieces_eq_cons (· == '\n') rest
  have alone : pieces (· == '\n') p = [] ++ [p] := pieces_of_notMem oneLine
  have lines : pieces (· == '\n') (p ++ rest) = (p ++ m) :: ms := pieces_append alone split
  have code : ∀ line ∈ (p ++ m) :: ms, codeOfLine line = id line := by
    intro line member
    refine codeOfLine_of_absent fun inside => absent (inside.trans ?_)
    exact infix_of_mem_pieces (lines ▸ member)
  have full : (p ++ m).all isBlank = false := by
    obtain ⟨c, cs, rfl⟩ := List.exists_cons_of_ne_nil trimmed.nonempty
    simp [trimmed.first c rfl]
  rw [withoutLineComments_eq, codeLines, codeOfLines, lines, List.map_congr_left code,
    List.map_id, List.filter_cons_of_pos (by simp [full]), closeUp_of_pieces split]
  exact joinWith_append_head '\n' p m _

/-- What is in a text without its blank lines is in the text. -/
theorem mem_of_mem_closeUp {c : Char} {cs : List Char} (member : c ∈ closeUp cs) (other : c ≠ '\n') :
    c ∈ cs := by
  obtain ⟨m, ms, split⟩ := exists_pieces_eq_cons (· == '\n') cs
  rw [closeUp_of_pieces split] at member
  obtain ⟨line, kept, inside⟩ := exists_mem_of_mem_joinWith member other
  have there : line ∈ m :: ms := by
    rcases List.mem_cons.1 kept with rfl | kept
    · exact List.mem_cons_self
    · exact List.mem_cons_of_mem _ (List.mem_filter.1 kept).1
  rw [← joinWith_pieces '\n' cs, split]
  exact (infix_joinWith there).subset inside

/-- A plain text that starts with something on a line is one statement that starts with it. -/
theorem Plain.statementsOf_append (oneLine : '\n' ∉ p) (trimmed : Trimmed p)
    (plain : Plain (p ++ rest)) : statementsOf (p ++ rest) = [p ++ trimEnd (closeUp rest)] := by
  have absent : ';' ∉ p ++ closeUp rest := by
    intro member
    refine plain.noTerminator (List.mem_append.2 ((List.mem_append.1 member).imp_right ?_))
    exact fun inside => mem_of_mem_closeUp inside (by decide)
  rw [statementsOf, withoutBlocks_of_absent plain.noBlock,
    withoutLineComments_plain_append oneLine trimmed plain.noLineComment,
    splitStatements_of_notMem absent, trimmed.trim_append]
  simp [trimmed.nonempty]

/-! ### Texts on one line -/

/-- A plain text on one line, without blanks at its ends. -/
structure Inline (cs : List Char) : Prop extends Plain cs, Trimmed cs where
  oneLine : '\n' ∉ cs

/-- Two texts on one line are one with a character between them that is part of no mark. -/
theorem Inline.append_cons (left : Inline a) (right : Inline b)
    (neutral : x ∉ [';', '-', '/', '*', '\n']) : Inline (a ++ x :: b) where
  toPlain := (plain_append_cons_iff (by simp_all)).2 ⟨left.toPlain, right.toPlain⟩
  nonempty := by simp
  first c head := left.first c (by
    obtain ⟨d, a, rfl⟩ := List.exists_cons_of_ne_nil left.nonempty
    exact head)
  last c last := right.last c (by
    obtain ⟨b, d, rfl⟩ := (List.eq_nil_or_concat' b).resolve_left right.nonempty
    simpa [List.getLast?_append, List.getLast?_cons] using last)
  oneLine := by
    have other : '\n' ≠ x := by rintro rfl; simp at neutral
    simp [left.oneLine, right.oneLine, other]

/-- A character that is neither a blank nor part of a mark. -/
def isPlain (c : Char) : Bool := !([';', '-', '/', '*'].contains c) && !isBlank c

/-- A word of such characters is on one line. -/
theorem Inline.of_all {cs : List Char} (nonempty : cs ≠ []) (word : cs.all isPlain = true) :
    Inline cs where
  noTerminator member := absurd (List.all_eq_true.1 word _ member) (by decide)
  noLineComment inside := absurd (List.all_eq_true.1 word '-' (inside.subset (by simp))) (by decide)
  noBlock inside := absurd (List.all_eq_true.1 word '/' (inside.subset (by simp))) (by decide)
  nonempty := nonempty
  first c head := by
    have plain := List.all_eq_true.1 word c (List.mem_of_head? head)
    simp_all [isPlain]
  last c last := by
    have plain := List.all_eq_true.1 word c (List.mem_of_getLast? last)
    simp_all [isPlain]
  oneLine member := absurd (List.all_eq_true.1 word _ member) (by decide)

/-- A plain text on one line is one statement, or none if it is blank. -/
theorem Plain.statementsOf_of_oneLine {cs : List Char} (plain : Plain cs) (oneLine : '\n' ∉ cs) :
    statementsOf cs = [trim cs].filter (!·.isEmpty) := by
  have alone : joinWith '\n' ([] ++ [cs]) = cs := List.intercalate_singleton
  rw [statementsOf, withoutBlocks_of_absent plain.noBlock, withoutLineComments_eq, codeLines,
    pieces_of_notMem oneLine, ← List.nil_append (codeOfLines [cs]), splitStatements_append_codeOfLines,
    codeOfLine_of_absent plain.noLineComment, alone, splitStatements_of_notMem plain.noTerminator]

theorem statementsOf_nil : statementsOf [] = [] := plain_nil.statementsOf_of_oneLine (by simp)

theorem Inline.plain_space_cons (line : Inline p) : Plain (' ' :: p) :=
  (plain_append_cons_iff (a := []) (by decide)).2 ⟨plain_nil, line.toPlain⟩

/-- A space before a text on one line makes no difference. -/
theorem Inline.statementsOf_space_cons (line : Inline p) : statementsOf (' ' :: p) = [p] := by
  have blank : [' '].all isBlank = true := by decide
  have trimmed : trim (' ' :: p) = p := (trim_blank_append blank p).trans line.trim_eq
  rw [line.plain_space_cons.statementsOf_of_oneLine (by simp [line.oneLine]), trimmed]
  simp [line.nonempty]

/-- The two statements of a script: one that goes on over several lines, and one on a line of its own. -/
theorem Inline.statementsOf_two {q : List Char} (first : Inline p) (plain : Plain rest)
    (second : Inline q) : statementsOf ((p ++ ' ' :: rest) ++ ';' :: (' ' :: q ++ ';' :: [])) =
      [p ++ trimEnd (closeUp (' ' :: rest)), q] := by
  have whole : Plain (p ++ ' ' :: rest) :=
    (plain_append_cons_iff (by decide)).2 ⟨first.toPlain, plain⟩
  rw [whole.statementsOf_append_cons, second.plain_space_cons.statementsOf_append_cons,
    whole.statementsOf_append first.oneLine first.toTrimmed, second.statementsOf_space_cons,
    statementsOf_nil]
  rfl

end SchemaHistory.Sql
