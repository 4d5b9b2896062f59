import SchemaHistory.Proofs.Script.Comment

/-!
A line comment on a line of its own, and when it can be left out.

Block comments are taken out before lines are looked at, so that an opening mark opens a block comment
also where it stands behind `--`. A line comment can be left out where it closes every block comment that
it opens.
-/

namespace SchemaHistory.Sql

variable {a b c : List Char}

/-- What is left of a text is the same with and without a line of comment. -/
theorem withoutLineComments_withoutBlocks_insert (closed : BlocksClosed a) (oneLine : '\n' ∉ c)
    (commentClosed : BlocksClosed c) :
    withoutLineComments (withoutBlocks (a ++ '\n' :: '-' :: '-' :: (c ++ '\n' :: b))) =
      withoutLineComments (withoutBlocks (a ++ '\n' :: b)) := by
  have dashes : BlocksClosed ('-' :: '-' :: c) := (commentClosed.cons (by decide)).cons (by decide)
  have code : withoutBlocks ('-' :: '-' :: c) = '-' :: '-' :: withoutBlocks c := by
    rw [withoutBlocks_cons (by decide) (by decide), withoutBlocks_cons (by decide) (by decide)]
  have commentLine : codeLines ('-' :: '-' :: withoutBlocks c) = [] :=
    codeLines_comment fun inside => oneLine ((withoutBlocks_sublist c).subset inside)
  have behind : withoutBlocks ('-' :: '-' :: (c ++ '\n' :: b)) =
      '-' :: '-' :: withoutBlocks c ++ '\n' :: withoutBlocks b := by
    rw [← code]
    exact withoutBlocks_append_cons dashes (by decide) (by decide)
  rw [withoutLineComments_eq, withoutLineComments_eq,
    withoutBlocks_append_cons closed (by decide) (by decide), behind,
    withoutBlocks_append_cons closed (by decide) (by decide), codeLines_append_cons,
    codeLines_append_cons, codeLines_append_cons, commentLine, List.nil_append]

/-- Extraction does not see a line that holds a line comment alone, if every block comment of the text
before it and every one that it opens itself is closed. -/
theorem statements_insert_lineComment (a b c : String) (closed : BlocksClosed a.toList)
    (oneLine : '\n' ∉ c.toList) (commentClosed : BlocksClosed c.toList) :
    statements (a ++ "\n--" ++ c ++ "\n" ++ b) = statements (a ++ "\n" ++ b) := by
  have same := withoutLineComments_withoutBlocks_insert (b := b.toList) closed oneLine commentClosed
  simp only [statements, statementsOf, String.toList_append, List.append_assoc]
  exact congrArg (fun cs => (splitStatements cs).map String.ofList) same

theorem statements_insert_lineComment_closed :
    BlocksClosed "SELECT 1; /* one */".toList ∧ '\n' ∉ " two /* ; */ -- three".toList ∧
      BlocksClosed " two /* ; */ -- three".toList ∧
      statements ("SELECT 1; /* one */" ++ "\n--" ++ " two /* ; */ -- three" ++ "\n" ++ "SELECT 2") =
        statements ("SELECT 1; /* one */" ++ "\n" ++ "SELECT 2") :=
  have closed : BlocksClosed "SELECT 1; /* one */".toList :=
    @BlocksClosed.comment "SELECT 1; ".toList " one ".toList [] (by decide) (by decide)
      (.plain (by decide))
  have commentClosed : BlocksClosed " two /* ; */ -- three".toList :=
    @BlocksClosed.comment " two ".toList " ; ".toList " -- three".toList (by decide) (by decide)
      (.plain (by decide))
  ⟨closed, by decide, commentClosed,
    statements_insert_lineComment _ _ _ closed (by decide) commentClosed⟩

/-- A line comment that opens a block comment takes along what follows it. -/
theorem not_forall_statements_insert_lineComment :
    ¬ ∀ a b c : String, BlocksClosed a.toList → '\n' ∉ c.toList →
      statements (a ++ "\n--" ++ c ++ "\n" ++ b) = statements (a ++ "\n" ++ b) := by
  intro same
  exact absurd (same "SELECT 1;" "SELECT 2;" " see /* below" (.plain (by decide)) (by decide))
    (by decide +kernel)

end SchemaHistory.Sql
