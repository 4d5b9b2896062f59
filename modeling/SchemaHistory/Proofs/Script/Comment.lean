import SchemaHistory.Proofs.Text.Mark
import SchemaHistory.Proofs.Text.Pieces
import SchemaHistory.Sql.Script

/-!
Comments of a migration file, and what is left without them.

A block comment ends at the first closing mark behind its opening mark. Where every block comment of a
text is closed, what follows the text is read as if it stood alone, unless the two together make a new
mark. Lines are read one by one, so that a line that holds a comment alone can be left out.
-/

namespace SchemaHistory.Sql

variable {a b c cs before body rest : List Char} {x : Char}

/-! ### Block comments -/

/-- Every block comment that a text opens is closed in it: it opens none, or what stands behind the first
one has all its block comments closed. -/
inductive BlocksClosed : List Char → Prop where
  | plain {cs : List Char} (absent : ¬ ['/', '*'] <:+: cs) : BlocksClosed cs
  | comment {before body rest : List Char} (first : ¬ ['/', '*'] <:+: before)
      (inside : ¬ ['*', '/'] <:+: body) (closed : BlocksClosed rest) :
      BlocksClosed (before ++ '/' :: '*' :: (body ++ '*' :: '/' :: rest))

theorem withoutBlocks_of_cutAt_none (plain : cutAt ['/', '*'] cs = none) : withoutBlocks cs = cs := by
  rw [withoutBlocks]
  split
  · rfl
  · simp_all

theorem withoutBlocks_of_cutAt_some (opened : cutAt ['/', '*'] cs = some (before, body)) :
    withoutBlocks cs =
      before ++ ((cutAt ['*', '/'] body).elim [] fun (_, rest) => withoutBlocks rest) := by
  rw [withoutBlocks]
  split
  · simp_all
  · rename_i opened'
    rw [opened] at opened'
    obtain ⟨rfl, rfl⟩ := Prod.mk.inj (Option.some.inj opened')
    split <;> simp_all

/-- A text without block comments is left as it is. -/
theorem withoutBlocks_of_absent (absent : ¬ ['/', '*'] <:+: cs) : withoutBlocks cs = cs :=
  withoutBlocks_of_cutAt_none ((cutAt_eq_none_iff (List.cons_ne_nil _ _)).2 absent)

/-- A block comment that is closed is taken out. -/
theorem withoutBlocks_comment (first : ¬ ['/', '*'] <:+: before) (inside : ¬ ['*', '/'] <:+: body) :
    withoutBlocks (before ++ '/' :: '*' :: (body ++ '*' :: '/' :: rest)) =
      before ++ withoutBlocks rest := by
  rw [withoutBlocks_of_cutAt_some (cutAt_append_mark (by decide) first),
    cutAt_append_mark (by decide) inside]
  rfl

/-- Behind a text whose block comments are closed, a character that is in no mark starts anew. -/
theorem withoutBlocks_append_cons (closed : BlocksClosed a) (noSlash : x ≠ '/') (noStar : x ≠ '*') :
    withoutBlocks (a ++ x :: b) = withoutBlocks a ++ x :: withoutBlocks b := by
  induction closed with
  | @plain cs absent =>
    have outside : x ∉ ['/', '*'] := by simp [noSlash, noStar]
    have beyond : cutAt ['/', '*'] (cs ++ x :: b) = _ := cutAt_append_cons outside absent
    rw [withoutBlocks_of_absent absent]
    cases opened : cutAt ['/', '*'] b with
    | none =>
      rw [opened] at beyond
      rw [withoutBlocks_of_cutAt_none opened, withoutBlocks_of_cutAt_none beyond]
    | some cut =>
      rw [opened] at beyond
      rw [withoutBlocks_of_cutAt_some opened, withoutBlocks_of_cutAt_some beyond]
      simp
  | @comment before body rest first inside _ ih =>
    have onward : withoutBlocks (before ++ '/' :: '*' :: (body ++ '*' :: '/' :: (rest ++ x :: b))) = _ :=
      withoutBlocks_comment first inside
    rw [ih] at onward
    simpa [withoutBlocks_comment first inside] using onward

theorem withoutBlocks_cons (noSlash : x ≠ '/') (noStar : x ≠ '*') (b : List Char) :
    withoutBlocks (x :: b) = x :: withoutBlocks b := by
  have nothing : ¬ ['/', '*'] <:+: [] := by simp
  have onward : withoutBlocks ([] ++ x :: b) = _ := withoutBlocks_append_cons (.plain nothing) noSlash noStar
  rwa [withoutBlocks_of_absent nothing] at onward

/-- A character that opens no comment can be put before a text whose block comments are closed. -/
theorem BlocksClosed.cons (closed : BlocksClosed c) (noSlash : x ≠ '/') : BlocksClosed (x :: c) := by
  have start : ∀ l : List Char, ¬ ['/', '*'] <:+: l → ¬ ['/', '*'] <:+: x :: l := by
    intro l absent inside
    rcases List.infix_cons_iff.1 inside with here | later
    · exact noSlash (List.cons_prefix_cons.1 here).1.symm
    · exact absent later
  cases closed with
  | plain absent => exact .plain (start _ absent)
  | comment first inside closed => exact .comment (start _ first) inside closed

/-- Taking comments out adds nothing. -/
theorem withoutBlocks_sublist (cs : List Char) : (withoutBlocks cs).Sublist cs := by
  fun_induction withoutBlocks cs with
  | case1 => exact .refl _
  | case2 cs before body opened ih =>
    rw [← append_of_cutAt opened]
    refine (List.Sublist.refl before).append ?_
    split
    · exact List.nil_sublist _
    · rename_i inner rest closed
      have behind : rest <:+ ['/', '*'] ++ body :=
        ⟨['/', '*'] ++ inner ++ ['*', '/'], by simp [← append_of_cutAt closed]⟩
      exact (ih inner rest closed).trans behind.sublist

/-! ### Lines -/

/-- What line comments leave of a list of lines, without the lines of which they leave blanks only. -/
def codeOfLines (lines : List (List Char)) : List (List Char) :=
  (lines.map codeOfLine).filter fun line => !line.all isBlank

theorem codeOfLines_append (lines lines' : List (List Char)) :
    codeOfLines (lines ++ lines') = codeOfLines lines ++ codeOfLines lines' := by
  rw [codeOfLines, List.map_append, List.filter_append]
  rfl

/-- What line comments leave of the lines of a text. -/
def codeLines (cs : List Char) : List (List Char) := codeOfLines (pieces (· == '\n') cs)

theorem withoutLineComments_eq (cs : List Char) :
    withoutLineComments cs = joinWith '\n' (codeLines cs) := rfl

theorem codeLines_append_cons (a b : List Char) :
    codeLines (a ++ '\n' :: b) = codeLines a ++ codeLines b := by
  rw [codeLines, pieces_append_cons (by rfl), codeOfLines_append]
  rfl

/-- A line break at the start of a text makes no difference. -/
theorem codeLines_break_cons (b : List Char) : codeLines ('\n' :: b) = codeLines b :=
  codeLines_append_cons [] b

theorem withoutLineComments_break_cons (b : List Char) :
    withoutLineComments ('\n' :: b) = withoutLineComments b := by
  rw [withoutLineComments_eq, codeLines_break_cons, withoutLineComments_eq]

/-- Nor does one at its end. -/
theorem withoutLineComments_append_break (a : List Char) :
    withoutLineComments (a ++ ['\n']) = withoutLineComments a := by
  have nothing : codeLines [] = [] := rfl
  rw [withoutLineComments_eq, codeLines_append_cons, nothing, List.append_nil]
  rfl

/-- Nothing is left of a line that starts with a line comment. -/
theorem codeLines_comment (oneLine : '\n' ∉ c) : codeLines ('-' :: '-' :: c) = [] := by
  have absent : '\n' ∉ '-' :: '-' :: c := by simp [oneLine]
  rw [codeLines, pieces_of_notMem absent]
  simp [codeOfLines, codeOfLine, cutAt]

end SchemaHistory.Sql
