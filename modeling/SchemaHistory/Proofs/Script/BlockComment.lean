import SchemaHistory.Proofs.Script.Comment

/-!
A block comment that starts and ends with a line, and why it can be left out.

What stands before it ends in a line break, and so does the comment, so that no mark is made of characters
on both sides. Of the comment an empty line is left, which goes with the other blank lines.
-/

namespace SchemaHistory.Sql

variable {a b c : List Char}

/-- Of a block comment between two line breaks an empty line is left. -/
theorem withoutBlocks_insert_comment (closed : BlocksClosed a) (inside : ¬ ['*', '/'] <:+: c) :
    withoutBlocks (a ++ '\n' :: '/' :: '*' :: (c ++ '*' :: '/' :: '\n' :: b)) =
      withoutBlocks a ++ '\n' :: '\n' :: withoutBlocks b := by
  have comment : withoutBlocks ('/' :: '*' :: (c ++ '*' :: '/' :: '\n' :: b)) =
      withoutBlocks ('\n' :: b) := by
    have nothing : ¬ ['/', '*'] <:+: ([] : List Char) := by decide
    exact withoutBlocks_comment nothing inside
  rw [withoutBlocks_append_cons closed (by decide) (by decide), comment,
    withoutBlocks_cons (by decide) (by decide)]

/-- An empty line makes no difference. -/
theorem withoutLineComments_insert_break (a b : List Char) :
    withoutLineComments (a ++ '\n' :: '\n' :: b) = withoutLineComments (a ++ '\n' :: b) := by
  rw [withoutLineComments_eq, withoutLineComments_eq, codeLines_append_cons, codeLines_break_cons,
    codeLines_append_cons]

/-- Extraction does not see a block comment on lines of its own, whatever is in it and whatever follows it,
if every block comment of the text before it is closed. -/
theorem statements_insert_blockComment (a b c : String) (closed : BlocksClosed a.toList)
    (inside : ¬ ['*', '/'] <:+: c.toList) :
    statements (a ++ "\n/*" ++ c ++ "*/\n" ++ b) = statements (a ++ "\n" ++ b) := by
  have same : statementsOf (a.toList ++ '\n' :: '/' :: '*' :: (c.toList ++ '*' :: '/' :: '\n' :: b.toList)) =
      statementsOf (a.toList ++ '\n' :: b.toList) := by
    rw [statementsOf, withoutBlocks_insert_comment closed inside, withoutLineComments_insert_break,
      statementsOf, withoutBlocks_append_cons closed (by decide) (by decide)]
  simp only [statements, String.toList_append, List.append_assoc]
  exact congrArg (List.map String.ofList) same

theorem statements_insert_blockComment_joined :
    BlocksClosed "SELECT /* 1; */ 2 -- three /".toList ∧
      ¬ ['*', '/'] <:+: "/ four;\n-- five /*".toList ∧
      statements ("SELECT /* 1; */ 2 -- three /" ++ "\n/*" ++ "/ four;\n-- five /*" ++ "*/\n" ++
          "* 6; /* seven") =
        statements ("SELECT /* 1; */ 2 -- three /" ++ "\n" ++ "* 6; /* seven") :=
  have closed : BlocksClosed "SELECT /* 1; */ 2 -- three /".toList :=
    @BlocksClosed.comment "SELECT ".toList " 1; ".toList " 2 -- three /".toList (by decide) (by decide)
      (.plain (by decide))
  have inside : ¬ ['*', '/'] <:+: "/ four;\n-- five /*".toList := by decide
  ⟨closed, inside, statements_insert_blockComment _ _ _ closed inside⟩

end SchemaHistory.Sql
