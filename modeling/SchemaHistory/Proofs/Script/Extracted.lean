import SchemaHistory.Proofs.Script.Plain

/-!
What holds of every extracted statement.

It has no blanks at its ends, no terminator, no `--` and no blank line. Taking out block comments brings
characters together that were apart, so a slash before a comment and a star behind it make an opening
mark that nothing takes out any more. Where there is none, the statement is read as itself.
-/

namespace SchemaHistory.Sql

variable {cs line p before body : List Char}

/-! ### Block comments -/

theorem star_of_withoutBlocks (starts : ['*'] <+: withoutBlocks cs) :
    ['*'] <+: cs ∨ ['*', '/', '*'] <:+: cs := by
  fun_induction withoutBlocks cs with
  | case1 => exact Or.inl starts
  | case2 cs before body opened ih =>
    rw [← append_of_cutAt opened]
    cases before with
    | cons c rest =>
      rw [List.cons_append, List.cons_prefix_cons] at starts
      rw [starts.1, List.cons_append]
      exact Or.inl (by simp)
    | nil =>
      rw [List.nil_append] at starts
      split at starts
      · simp at starts
      · rename_i inner rest closed
        rw [← append_of_cutAt closed]
        right
        rcases ih inner rest closed starts with ⟨more, rfl⟩ | later
        · exact ⟨['/', '*'] ++ inner, more, by simp⟩
        · exact later.trans ⟨['/', '*'] ++ inner ++ ['*', '/'], [], by simp⟩

/-- An opening mark that is left over was made by taking out comments: one that stood right behind a
slash, and one right before a star. -/
theorem joined_of_withoutBlocks (inside : ['/', '*'] <:+: withoutBlocks cs) :
    ['/', '/', '*'] <:+: cs ∧ ['*', '/', '*'] <:+: cs := by
  fun_induction withoutBlocks cs with
  | case1 cs plain => exact absurd inside ((cutAt_eq_none_iff (List.cons_ne_nil _ _)).1 plain)
  | case2 cs before body opened ih =>
    have first : ¬ ['/', '*'] <:+: before := not_infix_of_cutAt (List.cons_ne_nil _ _) opened
    rw [← append_of_cutAt opened]
    split at inside
    · rw [List.append_nil] at inside
      exact absurd inside first
    · rename_i inner rest closed
      have behind : rest <:+: before ++ (['/', '*'] ++ body) :=
        ⟨before ++ ['/', '*'] ++ inner ++ ['*', '/'], [], by simp [← append_of_cutAt closed]⟩
      rcases List.infix_append_iff.1 inside with inBefore | later | ⟨l₁, l₂, mark, ends, starts⟩
      · exact absurd inBefore first
      · have both := ih inner rest closed later
        exact ⟨both.1.trans behind, both.2.trans behind⟩
      · rcases List.append_eq_cons_iff.1 mark.symm with ⟨rfl, rfl⟩ | ⟨l, rfl, tail⟩
        · have both := ih inner rest closed starts.isInfix
          exact ⟨both.1.trans behind, both.2.trans behind⟩
        · rcases List.append_eq_cons_iff.1 tail.symm with ⟨rfl, rfl⟩ | ⟨_, rfl, _⟩
          · -- the mark is made of the last character before the comment and the first one behind it
            obtain ⟨b, rfl⟩ := ends
            refine ⟨⟨b, body, by simp⟩, ?_⟩
            rcases star_of_withoutBlocks starts with ⟨more, rfl⟩ | later
            · exact ⟨b ++ ['/'] ++ ['/', '*'] ++ inner, more, by simp [← append_of_cutAt closed]⟩
            · exact later.trans behind
          · obtain ⟨rfl, -⟩ := List.append_eq_nil_iff.1 (List.cons.inj tail).2.symm
            exact absurd ends.isInfix first

/-- What is left of a text is shorter if the text has an opening mark. -/
theorem length_withoutBlocks_lt (inside : ['/', '*'] <:+: cs) :
    (withoutBlocks cs).length < cs.length := by
  cases opened : cutAt ['/', '*'] cs with
  | none => exact absurd inside ((cutAt_eq_none_iff (List.cons_ne_nil _ _)).1 opened)
  | some cut =>
    obtain ⟨before, body⟩ := cut
    have total := length_of_cutAt opened
    rw [withoutBlocks_of_cutAt_some opened, List.length_append]
    simp only [List.length_cons, List.length_nil] at total
    cases closed : cutAt ['*', '/'] body with
    | none => simpa using by omega
    | some cut =>
      obtain ⟨inner, rest⟩ := cut
      have := length_of_cutAt closed
      have := (withoutBlocks_sublist rest).length_le
      change before.length + (withoutBlocks rest).length < cs.length
      simp only [List.length_cons, List.length_nil] at *
      omega

/-! ### Line comments -/

/-- A mark that has no line break is in one of the joined lines. -/
theorem infix_joinWith_iff {mark : List Char} {ls : List (List Char)} (nonempty : mark ≠ [])
    (oneLine : '\n' ∉ mark) : mark <:+: joinWith '\n' ls ↔ ∃ line ∈ ls, mark <:+: line := by
  constructor
  · intro inside
    induction ls with
    | nil => exact absurd (List.eq_nil_of_infix_nil inside) nonempty
    | cons l ms ih =>
      cases ms with
      | nil => exact ⟨l, List.mem_cons_self, by simpa [joinWith] using inside⟩
      | cons m ms =>
        rw [joinWith_cons_cons, infix_append_cons_iff oneLine] at inside
        rcases inside with here | later
        · exact ⟨l, List.mem_cons_self, here⟩
        · obtain ⟨line, member, inside⟩ := ih later
          exact ⟨line, List.mem_cons_of_mem _ member, inside⟩
  · rintro ⟨line, member, inside⟩
    exact inside.trans (infix_joinWith member)

/-- The code of a line is a start of the line without a line comment in it. -/
theorem codeOfLine_isPrefix (line : List Char) :
    codeOfLine line <+: line ∧ ¬ ['-', '-'] <:+: codeOfLine line := by
  rw [codeOfLine]
  split
  · rename_i absent
    exact ⟨List.prefix_rfl, (cutAt_eq_none_iff (List.cons_ne_nil _ _)).1 absent⟩
  · rename_i found
    exact ⟨⟨_, append_of_cutAt found⟩, not_infix_of_cutAt (List.cons_ne_nil _ _) found⟩

/-- A line of what line comments leave: the code of a line, not blank. -/
theorem exists_of_mem_codeLines (member : line ∈ codeLines cs) :
    (∃ whole ∈ pieces (· == '\n') cs, codeOfLine whole = line) ∧ line.all isBlank = false := by
  obtain ⟨mapped, full⟩ := List.mem_filter.1 member
  exact ⟨List.mem_map.1 mapped, by simpa using full⟩

theorem notMem_of_mem_codeLines (member : line ∈ codeLines cs) : '\n' ∉ line := by
  obtain ⟨⟨whole, piece, rfl⟩, -⟩ := exists_of_mem_codeLines member
  exact fun inside => notMem_of_mem_pieces piece ((codeOfLine_isPrefix whole).1.subset inside)

theorem withoutLineComments_absent (cs : List Char) : ¬ ['-', '-'] <:+: withoutLineComments cs := by
  rw [withoutLineComments_eq, infix_joinWith_iff (List.cons_ne_nil _ _) (by decide)]
  rintro ⟨line, member, inside⟩
  obtain ⟨⟨whole, -, rfl⟩, -⟩ := exists_of_mem_codeLines member
  exact (codeOfLine_isPrefix whole).2 inside

/-- Taking line comments out makes no mark without a line break. -/
theorem infix_of_withoutLineComments {mark : List Char} (nonempty : mark ≠ []) (oneLine : '\n' ∉ mark)
    (inside : mark <:+: withoutLineComments cs) : mark <:+: cs := by
  rw [withoutLineComments_eq, infix_joinWith_iff nonempty oneLine] at inside
  obtain ⟨line, member, inside⟩ := inside
  obtain ⟨⟨whole, piece, rfl⟩, -⟩ := exists_of_mem_codeLines member
  exact (inside.trans (codeOfLine_isPrefix whole).1.isInfix).trans (infix_of_mem_pieces piece)

theorem joinWith_codeOfLines_sublist (ls : List (List Char)) :
    (joinWith '\n' (codeOfLines ls)).Sublist (joinWith '\n' ls) := by
  induction ls with
  | nil => exact .refl _
  | cons l ms ih =>
    have start : (codeOfLine l).Sublist l := (codeOfLine_isPrefix l).1.sublist
    rw [← List.singleton_append, codeOfLines_append, codeOfLines_singleton]
    cases ms with
    | nil => split <;> simp [codeOfLines, joinWith, start]
    | cons m ms =>
      rw [List.singleton_append, joinWith_cons_cons]
      split
      · exact ih.trans ((List.sublist_cons_self _ _).trans (List.sublist_append_right _ _))
      · cases code : codeOfLines (m :: ms) with
        | nil => simpa [joinWith] using start.trans (List.sublist_append_left _ _)
        | cons n ns =>
          rw [code] at ih
          rw [List.singleton_append, joinWith_cons_cons]
          exact start.append (ih.cons_cons _)

/-- Taking line comments out adds nothing. -/
theorem withoutLineComments_sublist (cs : List Char) : (withoutLineComments cs).Sublist cs := by
  have lines := joinWith_codeOfLines_sublist (pieces (· == '\n') cs)
  rwa [joinWith_pieces] at lines

/-! ### Blank lines -/

/-- No line of the text is blank. -/
def NoBlankLine (cs : List Char) : Prop := ∀ line ∈ pieces (· == '\n') cs, line.all isBlank = false

instance (cs : List Char) : Decidable (NoBlankLine cs) :=
  inferInstanceAs (Decidable (∀ line ∈ pieces (· == '\n') cs, line.all isBlank = false))

theorem noBlankLine_withoutLineComments (cs : List Char) (nonempty : withoutLineComments cs ≠ []) :
    NoBlankLine (withoutLineComments cs) := by
  intro line member
  have some : codeLines cs ≠ [] := fun none => nonempty (by rw [withoutLineComments_eq, none]; rfl)
  rw [withoutLineComments_eq, pieces_joinWith some fun l => notMem_of_mem_codeLines] at member
  exact (exists_of_mem_codeLines member).2

/-- A part of a text has no blank line either if there are no blanks at its ends. -/
theorem NoBlankLine.of_part (lines : NoBlankLine cs) (trimmed : Trimmed p) (part : p <:+: cs) :
    NoBlankLine p := by
  intro line member
  by_contra blank
  rw [Bool.not_eq_false, List.all_eq_true] at blank
  obtain ⟨a, b, rfl, starts, ends⟩ := exists_append_of_mem_pieces member
  rcases starts with rfl | ⟨a, rfl⟩
  · -- the first character of the part would be a blank of the line, or the break behind it
    cases line with
    | cons c rest => exact absurd (blank c List.mem_cons_self) (by simp [trimmed.first c rfl])
    | nil =>
      rcases ends with rfl | ⟨b, rfl⟩
      · exact trimmed.nonempty rfl
      · exact absurd (trimmed.first '\n' rfl) (by decide)
  · rcases ends with rfl | ⟨b, rfl⟩
    · rcases List.eq_nil_or_concat' line with rfl | ⟨rest, c, rfl⟩
      · exact absurd (trimmed.last '\n' (by simp)) (by decide)
      · exact absurd (blank c (by simp)) (by simp [trimmed.last c (by simp [List.getLast?_cons])])
    · obtain ⟨u, v, rfl⟩ := part
      refine absurd (List.all_eq_true.2 blank) ?_
      rw [Bool.not_eq_true]
      refine lines line ?_
      have parted : u ++ (a ++ ['\n'] ++ line ++ '\n' :: b) ++ v =
          (u ++ a) ++ '\n' :: (line ++ '\n' :: (b ++ v)) := by simp
      rw [parted, pieces_append_cons (by rfl), pieces_append_cons (by rfl),
        pieces_of_notMem (notMem_of_mem_pieces member)]
      simp

/-! ### Statements -/

/-- A text without blanks at its ends that has no terminator, starts no line comment and has no blank
line. -/
structure Tidy (cs : List Char) : Prop extends Trimmed cs where
  noTerminator : ';' ∉ cs
  noLineComment : ¬ ['-', '-'] <:+: cs
  noBlankLine : NoBlankLine cs

theorem exists_of_mem_splitStatements (member : p ∈ splitStatements cs) :
    Trimmed p ∧ ';' ∉ p ∧ p <:+: cs := by
  obtain ⟨mapped, nonempty⟩ := List.mem_filter.1 member
  obtain ⟨piece, inside, rfl⟩ := List.mem_map.1 mapped
  have part : piece <:+: cs := infix_of_mem_pieces inside
  have kept := trim_infix piece
  exact ⟨trimmed_trim (by simpa using nonempty),
    fun cut => notMem_of_mem_pieces inside (kept.subset cut), kept.trans part⟩

theorem infix_of_mem_statementsOf (member : p ∈ statementsOf cs) :
    p <:+: withoutLineComments (withoutBlocks cs) := (exists_of_mem_splitStatements member).2.2

theorem tidy_of_mem_statementsOf (member : p ∈ statementsOf cs) : Tidy p := by
  obtain ⟨trimmed, noTerminator, part⟩ := exists_of_mem_splitStatements member
  refine ⟨trimmed, noTerminator, fun inside => withoutLineComments_absent _ (inside.trans part), ?_⟩
  refine (noBlankLine_withoutLineComments _ fun none => ?_).of_part trimmed part
  exact trimmed.nonempty (List.eq_nil_of_infix_nil (none ▸ part))

/-- A tidy text without an opening mark is read as one statement, as it is written. -/
theorem Tidy.statementsOf_eq (tidy : Tidy p) (noBlock : ¬ ['/', '*'] <:+: p) : statementsOf p = [p] := by
  have code : ∀ line ∈ pieces (· == '\n') p, codeOfLine line = id line := by
    intro line member
    exact codeOfLine_of_absent fun inside => tidy.noLineComment (inside.trans (infix_of_mem_pieces member))
  have lines : codeLines p = pieces (· == '\n') p := by
    rw [codeLines, codeOfLines, List.map_congr_left code, List.map_id, List.filter_eq_self]
    intro line member
    rw [tidy.noBlankLine line member]
    rfl
  rw [statementsOf, withoutBlocks_of_absent noBlock, withoutLineComments_eq, lines, joinWith_pieces,
    splitStatements_of_notMem tidy.noTerminator, tidy.trim_eq]
  simp [tidy.nonempty]

/-- A text with an opening mark is none of its own statements. -/
theorem notMem_statementsOf_self (block : ['/', '*'] <:+: p) : p ∉ statementsOf p := by
  intro member
  have part := (infix_of_mem_statementsOf member).length_le
  have lines := (withoutLineComments_sublist (withoutBlocks p)).length_le
  have blocks := length_withoutBlocks_lt block
  omega

/-- What holds of every statement that is extracted from a text. It is tidy. It has an opening mark only
if the text has a block comment right behind a slash and one right before a star. And it is read as
itself if and only if it has no such mark. -/
theorem tidy_of_mem_statements (sql s : String) (extracted : s ∈ statements sql) :
    Tidy s.toList ∧
      (['/', '*'] <:+: s.toList → ['/', '/', '*'] <:+: sql.toList ∧ ['*', '/', '*'] <:+: sql.toList) ∧
      (statements s = [s] ↔ ¬ ['/', '*'] <:+: s.toList) := by
  obtain ⟨p, member, rfl⟩ := List.mem_map.1 extracted
  rw [String.toList_ofList]
  have tidy := tidy_of_mem_statementsOf member
  refine ⟨tidy, fun block => ?_, fun same block => ?_, fun noBlock => ?_⟩
  · exact joined_of_withoutBlocks (infix_of_withoutLineComments (List.cons_ne_nil _ _) (by decide)
      (block.trans (infix_of_mem_statementsOf member)))
  · refine notMem_statementsOf_self block ?_
    rw [statements, String.toList_ofList] at same
    obtain ⟨q, inside, equal⟩ := List.mem_map.1 (same ▸ List.mem_singleton_self (String.ofList p))
    rwa [String.ofList_inj.1 equal] at inside
  · rw [statements, String.toList_ofList, tidy.statementsOf_eq noBlock]
    rfl

theorem tidy_of_mem_statements_joined :
    "SELECT 1 /* b */ + 2" ∈ statements "-- one\nSELECT 1 //* a */* b */ + 2;" ∧
      Tidy "SELECT 1 /* b */ + 2".toList ∧
      ¬ statements "SELECT 1 /* b */ + 2" = ["SELECT 1 /* b */ + 2"] :=
  have extracted : "SELECT 1 /* b */ + 2" ∈ statements "-- one\nSELECT 1 //* a */* b */ + 2;" := by
    decide +kernel
  have holds := tidy_of_mem_statements _ _ extracted
  ⟨extracted, holds.1, fun same => holds.2.2.1 same (by decide)⟩

/-- A comment can be made of what stands around comments, and then it is part of a statement. -/
theorem not_forall_statements_stable :
    ¬ ∀ sql s : String, s ∈ statements sql →
      Tidy s.toList ∧ ¬ ['/', '*'] <:+: s.toList ∧ statements s = [s] := by
  intro stable
  exact absurd (stable "SELECT 1 //* a */* b */ + 2;" "SELECT 1 /* b */ + 2" (by decide +kernel)).2.1
    (by decide)

end SchemaHistory.Sql
