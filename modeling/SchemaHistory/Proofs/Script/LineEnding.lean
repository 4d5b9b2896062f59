import SchemaHistory.Proofs.Script.Code
import SchemaHistory.Proofs.Script.Span

/-!
Scripts whose lines end in a carriage return and a line break.

A carriage return is a blank that is in no mark, so that comments start and end where they do without it. It
goes with a line comment or stays behind the code of its line, and there it parts no words that the line
break does not part.
-/

namespace SchemaHistory.Sql

variable {c : Char} {mark cs : List Char}

/-- The text with a carriage return before every line break. -/
def returnedChars (cs : List Char) : List Char :=
  cs.flatMap fun c => if c = '\n' then ['\r', '\n'] else [c]

/-- The text with a carriage return before every line break. -/
def returned (sql : String) : String := String.ofList (returnedChars sql.toList)

theorem returnedChars_append (a b : List Char) :
    returnedChars (a ++ b) = returnedChars a ++ returnedChars b := List.flatMap_append

theorem returnedChars_break_cons (cs : List Char) :
    returnedChars ('\n' :: cs) = '\r' :: '\n' :: returnedChars cs := rfl

theorem returnedChars_cons (other : c ≠ '\n') (cs : List Char) :
    returnedChars (c :: cs) = c :: returnedChars cs := by
  rw [returnedChars, List.flatMap_cons, if_neg other]
  rfl

/-- A text on one line stays as it is. -/
theorem returnedChars_of_oneLine (oneLine : '\n' ∉ cs) : returnedChars cs = cs := by
  induction cs with
  | nil => rfl
  | cons c rest ih =>
    rw [List.mem_cons, not_or] at oneLine
    rw [returnedChars_cons (Ne.symm oneLine.1), ih oneLine.2]

/-! ### Marks -/

theorem prefix_of_prefix_returnedChars (noReturn : '\r' ∉ mark) (starts : mark <+: returnedChars cs) :
    mark <+: cs := by
  induction cs generalizing mark with
  | nil => exact starts
  | cons c rest ih =>
    cases mark with
    | nil => exact List.nil_prefix
    | cons m mark =>
      rw [List.mem_cons, not_or] at noReturn
      by_cases lineBreak : c = '\n'
      · rw [lineBreak, returnedChars_break_cons, List.cons_prefix_cons] at starts
        exact absurd starts.1.symm noReturn.1
      · rw [returnedChars_cons lineBreak, List.cons_prefix_cons] at starts
        exact List.cons_prefix_cons.2 ⟨starts.1, ih noReturn.2 starts.2⟩

/-- Carriage returns make no mark. -/
theorem infix_of_infix_returnedChars (noReturn : '\r' ∉ mark) (noBreak : '\n' ∉ mark)
    (inside : mark <:+: returnedChars cs) : mark <:+: cs := by
  induction cs with
  | nil => exact inside
  | cons c rest ih =>
    by_cases lineBreak : c = '\n'
    · rw [lineBreak, returnedChars_break_cons, ← List.nil_append ('\r' :: _),
        infix_append_cons_iff noReturn, ← List.nil_append ('\n' :: _),
        infix_append_cons_iff noBreak] at inside
      rcases inside with nothing | nothing | later
      · exact nothing.trans List.nil_infix
      · exact nothing.trans List.nil_infix
      · exact (ih later).trans (List.suffix_cons c rest).isInfix
    · rw [returnedChars_cons lineBreak] at inside
      rcases List.infix_cons_iff.1 inside with starts | later
      · rw [← returnedChars_cons lineBreak] at starts
        exact (prefix_of_prefix_returnedChars noReturn starts).isInfix
      · exact (ih later).trans (List.suffix_cons c rest).isInfix

/-! ### Block comments -/

namespace Parted

/-- The code and the comments with a carriage return before every line break in them. -/
def returned : Parted → Parted
  | .code before => .code (returnedChars before)
  | .unclosed before body => .unclosed (returnedChars before) (returnedChars body)
  | .comment before body rest => .comment (returnedChars before) (returnedChars body) rest.returned

theorem text_returned (p : Parted) : p.returned.text = returnedChars p.text := by
  induction p with
  | code => rfl
  | unclosed before body =>
    rw [returned, text, text, returnedChars_append]
    rfl
  | comment before body rest ih =>
    rw [returned, text, text, ih, returnedChars_append, returnedChars_cons (by decide),
      returnedChars_cons (by decide), returnedChars_append, returnedChars_cons (by decide),
      returnedChars_cons (by decide)]

theorem outside_returned (p : Parted) : p.returned.outside = returnedChars p.outside := by
  induction p with
  | code => rfl
  | unclosed => rfl
  | comment before body rest ih => rw [returned, outside, outside, ih, returnedChars_append]

/-- Comments start and end where they did. -/
theorem Proper.returned {p : Parted} (proper : p.Proper) : p.returned.Proper := by
  have opening : ∀ {cs : List Char}, ¬ ['/', '*'] <:+: cs → ¬ ['/', '*'] <:+: returnedChars cs :=
    fun absent => mt (infix_of_infix_returnedChars (by decide) (by decide)) absent
  have closing : ∀ {cs : List Char}, ¬ ['*', '/'] <:+: cs → ¬ ['*', '/'] <:+: returnedChars cs :=
    fun absent => mt (infix_of_infix_returnedChars (by decide) (by decide)) absent
  induction p with
  | code => exact opening proper
  | unclosed => exact ⟨opening proper.1, closing proper.2⟩
  | comment before body rest ih => exact ⟨opening proper.1, closing proper.2.1, ih proper.2.2⟩

end Parted

theorem withoutBlocks_returnedChars (cs : List Char) :
    withoutBlocks (returnedChars cs) = returnedChars (withoutBlocks cs) := by
  obtain ⟨p, proper, rfl⟩ := Parted.exists_proper cs
  rw [← Parted.text_returned, Parted.withoutBlocks_text proper.returned, Parted.outside_returned,
    Parted.withoutBlocks_text proper]

/-! ### Lines -/

/-- A carriage return at the end of a line goes with its line comment, or it stays behind its code. -/
theorem codeOfLine_concat_return (line : List Char) :
    codeOfLine (line ++ ['\r']) = codeOfLine line ∨
      codeOfLine (line ++ ['\r']) = codeOfLine line ++ ['\r'] := by
  induction line with
  | nil => exact Or.inr rfl
  | cons c rest ih =>
    have mark : ['-', '-'] <+: c :: (rest ++ ['\r']) ↔ ['-', '-'] <+: c :: rest :=
      prefix_append_cons_iff (a := c :: rest) (by decide)
    rw [List.cons_append, codeOfLine_cons, codeOfLine_cons, if_congr mark rfl rfl]
    split
    · exact Or.inl rfl
    · exact ih.imp (congrArg (c :: ·)) (congrArg (c :: ·))

theorem wordParts_codeOfLine_concat_return (line : List Char) :
    wordParts (codeOfLine (line ++ ['\r'])) = wordParts (codeOfLine line) := by
  rcases codeOfLine_concat_return line with same | longer
  · rw [same]
  · have nothing : wordParts [] = [[]] := rfl
    rw [longer, wordParts_append_cons (by decide), nothing, glue_nil_right (wordParts_ne_nil _)]

/-- Line by line, the same words are left between terminators. -/
theorem wordParts_codeText_returnedChars (cs : List Char) :
    wordParts (codeText (returnedChars cs)) = wordParts (codeText cs) := by
  induction cs using induction_pieces '\n' with
  | last line oneLine => rw [returnedChars_of_oneLine oneLine]
  | step line rest oneLine ih =>
    have ended : '\n' ∉ line ++ ['\r'] := by simp [oneLine]
    rw [returnedChars_append, returnedChars_break_cons, returnedChars_of_oneLine oneLine,
      List.append_cons, codeText_append_cons, codeText_of_oneLine ended, wordParts_append_cons (by decide),
      wordParts_codeOfLine_concat_return, ih, codeText_append_cons, codeText_of_oneLine oneLine,
      wordParts_append_cons (by decide)]

/-! ### Statements -/

theorem words_statementsOf_returnedChars (cs : List Char) :
    (statementsOf (returnedChars cs)).map words = (statementsOf cs).map words := by
  rw [words_statementsOf, withoutBlocks_returnedChars, wordParts_codeText_returnedChars,
    words_statementsOf]

/-- With carriage returns the statements have the same normal forms, one by one. -/
theorem map_normal_statements_returned (sql : String) :
    (statements (returned sql)).map normal = (statements sql).map normal := by
  have forms : ∀ cs : List Char, ((statementsOf cs).map String.ofList).map normal =
      ((statementsOf cs).map words).map fun ws => String.ofList (lower (joinWith ' ' ws)) := by
    intro cs
    rw [List.map_map, List.map_map]
    refine List.map_congr_left fun p _ => ?_
    rw [Function.comp, normal, String.toList_ofList]
    rfl
  rw [statements, returned, String.toList_ofList, forms, words_statementsOf_returnedChars, ← forms,
    statements]

end SchemaHistory.Sql
