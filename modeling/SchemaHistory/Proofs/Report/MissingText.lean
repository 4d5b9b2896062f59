import SchemaHistory.Proofs.Json.Scalar
import SchemaHistory.Proofs.Script.Extracted
import SchemaHistory.Proofs.Script.LineComment
import SchemaHistory.Report.Basic

/-!
The report of missing statements, read as a script.

Its heading and the line above every statement are comments, and every statement ends with a terminator
of its own. Extraction gives back the statements as they are, if each of them is tidy and none of the
texts in the report opens a block comment.
-/

namespace SchemaHistory

/-! ### Times -/

/-- The characters in the text of a time. -/
def isTimeChar (c : Char) : Bool := c.isDigit || ['-', '+', 'T', ':', '.', 'Z'].contains c

theorem all_isTimeChar_padded (width n : Nat) : (padded width n).all isTimeChar = true := by
  rw [List.all_eq_true]
  intro c member
  rcases List.mem_append.1 member with zero | digit
  · rw [List.eq_of_mem_replicate zero]
    rfl
  · rw [isTimeChar, isDigit_of_mem_decimal digit, Bool.true_or]

theorem all_isTimeChar_yearText (year : Int) : (yearText year).all isTimeChar = true := by
  rw [yearText]
  split
  · exact all_isTimeChar_padded _ _
  · rw [List.all_cons, all_isTimeChar_padded]
    split <;> rfl

theorem Timestamp.all_isTimeChar_textChars (t : Timestamp) : t.textChars.all isTimeChar = true := by
  have marks : ['-', 'T', ':', '.', 'Z'].all isTimeChar = true := rfl
  simp only [List.all_cons, List.all_nil, Bool.and_true, Bool.and_eq_true] at marks
  simp [textChars, all_isTimeChar_padded, all_isTimeChar_yearText, marks]

/-! ### Comments -/

namespace Sql

variable {b c p : List Char}

/-- A line break before a text makes no difference. -/
theorem statementsOf_break_cons (b : List Char) : statementsOf ('\n' :: b) = statementsOf b := by
  rw [statementsOf, withoutBlocks_cons (by decide) (by decide), withoutLineComments_break_cons]
  rfl

/-- A line of comment at the start of a text makes no difference. -/
theorem statementsOf_comment (oneLine : '\n' ∉ c) (noBlock : ¬ ['/', '*'] <:+: c) (b : List Char) :
    statementsOf ('-' :: '-' :: (c ++ '\n' :: b)) = statementsOf b := by
  have insert := withoutLineComments_withoutBlocks_insert (b := b) plain_nil.blocksClosed oneLine
    (.plain noBlock)
  rw [← statementsOf_break_cons, ← statementsOf_break_cons b]
  exact congrArg splitStatements insert

/-- A tidy text is the first statement if a terminator stands behind it. -/
theorem Tidy.statementsOf_append_cons (tidy : Tidy p) (noBlock : ¬ ['/', '*'] <:+: p) (b : List Char) :
    statementsOf (p ++ ';' :: b) = p :: statementsOf b := by
  have plain : Plain p := ⟨tidy.noTerminator, tidy.noLineComment, noBlock⟩
  rw [plain.statementsOf_append_cons, tidy.statementsOf_eq noBlock]
  rfl

end Sql

/-! ### The report -/

namespace Report

open Sql

/-- What the report asks of a missing statement: its text is tidy, its source is on one line, and neither
opens a block comment. -/
structure Reportable (s : Statement) : Prop where
  tidy : Tidy s.text.toList
  noBlock : ¬ ['/', '*'] <:+: s.text.toList
  oneLine : '\n' ∉ s.source.toList
  noBlockInSource : ¬ ['/', '*'] <:+: s.source.toList

/-- The line above a statement, behind its two dashes. -/
def entryLine (index : Nat) (s : Statement) : String :=
  " Query " ++ countText (index + 1) ++ " (from " ++ s.source ++ "):"

theorem toList_missingEntry (index : Nat) (s : Statement) : (missingEntry index s).toList =
    '-' :: '-' :: ((entryLine index s).toList ++ '\n' :: (s.text.toList ++ ';' :: ['\n'])) := by
  have start : "-- Query ".toList = '-' :: '-' :: " Query ".toList := rfl
  have stop : "):\n".toList = "):".toList ++ ['\n'] := rfl
  have terminator : ";\n".toList = [';', '\n'] := rfl
  rw [missingEntry, entryLine]
  simp only [String.toList_append, start, stop, terminator, List.append_assoc, List.cons_append,
    List.nil_append]

theorem toList_entryLine (index : Nat) (s : Statement) : (entryLine index s).toList =
    (" Query ".toList ++ decimal (index + 1) ++ " (from".toList) ++
      ' ' :: (s.source.toList ++ ')' :: [':']) := by
  have before : " (from ".toList = " (from".toList ++ [' '] := rfl
  have behind : "):".toList = [')', ':'] := rfl
  simp only [entryLine, String.toList_append, countText, String.toList_ofList, before, behind,
    List.append_assoc, List.cons_append, List.nil_append]

/-- Only the source can put a line break or a mark into the line above a statement. -/
theorem Reportable.entryLine {s : Statement} (fit : Reportable s) (index : Nat) :
    '\n' ∉ (entryLine index s).toList ∧ ¬ ['/', '*'] <:+: (entryLine index s).toList := by
  have notDigit : ∀ c : Char, c.isDigit = false → c ∉ decimal (index + 1) := fun c other member => by
    simp [isDigit_of_mem_decimal member] at other
  have break_ := notDigit '\n' (by decide)
  have slash := notDigit '/' (by decide)
  rw [toList_entryLine, infix_append_cons_iff (by decide), infix_append_cons_iff (by decide)]
  constructor
  · simp [break_, fit.oneLine]
  · rintro (count | source | stop)
    · have := count.subset (List.mem_cons_self)
      simp [slash] at this
    · exact fit.noBlockInSource source
    · exact absurd stop (by decide)

theorem statementsOf_missingEntry_append {s : Statement} (fit : Reportable s) (index : Nat)
    (b : List Char) :
    statementsOf ((missingEntry index s).toList ++ b) = s.text.toList :: statementsOf b := by
  have shape : (missingEntry index s).toList ++ b = '-' :: '-' :: ((Report.entryLine index s).toList ++
      '\n' :: (s.text.toList ++ ';' :: ('\n' :: b))) := by
    rw [toList_missingEntry]
    simp only [List.cons_append, List.append_assoc, List.nil_append]
  rw [shape, statementsOf_comment (fit.entryLine index).1 (fit.entryLine index).2,
    fit.tidy.statementsOf_append_cons fit.noBlock, statementsOf_break_cons]

/-- A line of the heading: words after two dashes, then a text in which no line ends and no comment can
open. -/
theorem statementsOf_headingLine {words shown : List Char} (plain : '\n' ∉ words ∧ '/' ∉ words)
    (plain' : '\n' ∉ shown ∧ '/' ∉ shown) (b : List Char) :
    statementsOf ('-' :: '-' :: (words ++ shown) ++ '\n' :: b) = statementsOf b := by
  refine statementsOf_comment (by simp [plain.1, plain'.1]) (fun inside => ?_) b
  have := inside.subset List.mem_cons_self
  simp [plain.2, plain'.2] at this

theorem notMem_countText (n : Nat) : '\n' ∉ (countText n).toList ∧ '/' ∉ (countText n).toList := by
  rw [countText, String.toList_ofList]
  constructor <;> exact fun member => absurd (isDigit_of_mem_decimal member) (by decide)

theorem notMem_text (t : Timestamp) : '\n' ∉ t.text.toList ∧ '/' ∉ t.text.toList := by
  have only := List.all_eq_true.1 t.all_isTimeChar_textChars
  rw [Timestamp.text, String.toList_ofList]
  constructor <;> exact fun member => absurd (only _ member) (by decide)

/-- The entries of the report, from a number on. -/
theorem statementsOf_entries {missing : List Statement} (fit : ∀ s ∈ missing, Reportable s) (n : Nat) :
    statementsOf (joinWith '\n' ((missing.zipIdx n).map fun (s, index) => (missingEntry index s).toList)) =
      missing.map (·.text.toList) := by
  induction missing generalizing n with
  | nil => exact statementsOf_nil
  | cons s rest ih =>
    rw [List.forall_mem_cons] at fit
    have later := ih fit.2 (n + 1)
    rw [List.zipIdx_cons, List.map_cons, List.map_cons]
    cases rest with
    | nil =>
      have alone := statementsOf_missingEntry_append fit.1 n []
      rw [List.append_nil, statementsOf_nil] at alone
      simpa [joinWith] using alone
    | cons t rest =>
      rw [List.zipIdx_cons, List.map_cons] at later ⊢
      rw [joinWith_cons_cons, statementsOf_missingEntry_append fit.1, statementsOf_break_cons, later]

/-- The heading of the report leaves nothing behind. -/
theorem statementsOf_missingText {missing : List Statement} (nonempty : missing ≠ []) (t : Timestamp) :
    statementsOf (missingText missing t).toList = statementsOf (joinWith '\n'
      (missing.zipIdx.map fun (s, index) => (missingEntry index s).toList)) := by
  have title : "-- Queries not included in the new consolidated migration".toList =
      '-' :: '-' :: (" Queries not included in the new consolidated migration".toList ++ []) := rfl
  have time : ("-- Generated on: " ++ t.text).toList =
      '-' :: '-' :: (" Generated on: ".toList ++ t.text.toList) := String.toList_append ..
  have total : ("-- Total missing queries: " ++ countText missing.length).toList =
      '-' :: '-' :: (" Total missing queries: ".toList ++ (countText missing.length).toList) :=
    String.toList_append ..
  have empty : "".toList = [] := rfl
  obtain ⟨s, rest, rfl⟩ := List.exists_cons_of_ne_nil nonempty
  rw [missingText, if_neg (by simp), String.toList_intercalate, List.map_append, List.map_map]
  simp only [List.zipIdx_cons, List.map_cons, List.map_nil, List.cons_append, List.nil_append]
  change statementsOf (joinWith '\n' _) = _
  rw [joinWith_cons_cons, joinWith_cons_cons, joinWith_cons_cons, joinWith_cons_cons, title, time, total,
    empty, List.nil_append, statementsOf_headingLine (by decide) (by decide),
    statementsOf_headingLine (by decide) (notMem_text t),
    statementsOf_headingLine (by decide) (notMem_countText _), statementsOf_break_cons]
  rfl

/-- The report of missing statements is a script of exactly these statements, in order and as often as
they are listed. Each text has to be one that extraction gives, and neither a text nor the name of
a source may open a block comment; a name is on one line. -/
theorem statements_missingText (missing : List Statement) (t : Timestamp)
    (extracted : ∀ s ∈ missing, ∃ sql, s.text ∈ statements sql)
    (noBlock : ∀ s ∈ missing, ¬ ['/', '*'] <:+: s.text.toList)
    (named : ∀ s ∈ missing, '\n' ∉ s.source.toList ∧ ¬ ['/', '*'] <:+: s.source.toList) :
    statements (missingText missing t) = missing.map (·.text) := by
  have fit : ∀ s ∈ missing, Reportable s := by
    intro s member
    obtain ⟨sql, from_⟩ := extracted s member
    obtain ⟨p, inside, same⟩ := List.mem_map.1 from_
    have tidy : Tidy s.text.toList := by
      rw [← same, String.toList_ofList]
      exact tidy_of_mem_statementsOf inside
    exact ⟨tidy, noBlock s member, (named s member).1, (named s member).2⟩
  by_cases none : missing = []
  · subst none
    have nothing : statements ("-- No missing queries found\n" ++
        "-- All queries were included in the new migration\n") = [] := by decide +kernel
    exact nothing
  · rw [statements, statementsOf_missingText none, statementsOf_entries fit, List.map_map]
    exact List.map_congr_left fun s _ => String.ofList_toList

theorem statements_missingText_twice :
    let view : Statement := .unfiltered "CREATE VIEW v AS\n\tSELECT *  -  1" "2024 (from a): -- 1;" 3
    let grant : Statement := .unfiltered "GRANT ALL ON v TO app" "" 7
    (∃ sql, view.text ∈ statements sql) ∧ (∃ sql, grant.text ∈ statements sql) ∧
      statements (missingText [view, grant, view] ⟨-62167219201, 0⟩) =
        ["CREATE VIEW v AS\n\tSELECT *  -  1", "GRANT ALL ON v TO app",
          "CREATE VIEW v AS\n\tSELECT *  -  1"] := by
  intro view grant
  have one : view.text ∈ statements "CREATE VIEW v AS\n\n\tSELECT *  -  1;" := by decide +kernel
  have two : grant.text ∈ statements "/* all */ GRANT ALL ON v TO app -- ;" := by decide +kernel
  refine ⟨⟨_, one⟩, ⟨_, two⟩, statements_missingText [view, grant, view] _ ?_ ?_ ?_⟩
  · simp only [List.forall_mem_cons, List.not_mem_nil, false_implies, implies_true, and_true]
    exact ⟨⟨_, one⟩, ⟨_, two⟩, _, one⟩
  · simp only [List.forall_mem_cons, List.not_mem_nil, false_implies, implies_true, and_true]
    decide
  · simp only [List.forall_mem_cons, List.not_mem_nil, false_implies, implies_true, and_true]
    decide

end Report

end SchemaHistory
