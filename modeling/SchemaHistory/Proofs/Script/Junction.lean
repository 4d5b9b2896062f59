import SchemaHistory.Proofs.Script.Terminator

/-!
Scripts that are joined with a terminator on a line of its own between neighbours.

The line break before the terminator ends a line comment, and the one behind it keeps a mark from being made
of characters on both sides. So the statements of the joined script are those of its parts one after the
other, if every part but the last closes its block comments; what the last one leaves open is open
in the whole as well.
-/

namespace SchemaHistory.Sql

variable {a b : List Char}

/-- Behind a line break no line comment is open. -/
theorem endsInCode_append_break (a : List Char) : EndsInCode (a ++ ['\n']) := by
  have empty : pieces (· == '\n') ([] : List Char) = [[]] := rfl
  intro line last
  rw [pieces_append_cons (by rfl), empty, List.getLast?_concat] at last
  obtain rfl := Option.some.inj last
  simp

/-- A terminator on a line of its own parts the statements, if all block comments before it are closed. -/
theorem statementsOf_append_junction (closed : BlocksClosed a) (b : List Char) :
    statementsOf (a ++ '\n' :: ';' :: '\n' :: b) = statementsOf a ++ statementsOf b := by
  have code : withoutBlocks (a ++ '\n' :: ';' :: '\n' :: b) =
      (withoutBlocks a ++ ['\n']) ++ ';' :: '\n' :: withoutBlocks b := by
    rw [withoutBlocks_append_cons closed (by decide) (by decide),
      withoutBlocks_cons (by decide) (by decide), withoutBlocks_cons (by decide) (by decide),
      List.append_assoc, List.singleton_append]
  rw [statementsOf, code, splitStatements_withoutLineComments_append_cons (endsInCode_append_break _),
    withoutLineComments_append_break, withoutLineComments_break_cons]
  rfl

theorem statements_append_junction {a : String} (closed : BlocksClosed a.toList) (b : String) :
    statements (a ++ "\n;\n" ++ b) = statements a ++ statements b := by
  have whole : (a ++ "\n;\n" ++ b).toList = a.toList ++ '\n' :: ';' :: '\n' :: b.toList := by
    rw [String.toList_append, String.toList_append, List.append_assoc]
    rfl
  rw [statements, whole, statementsOf_append_junction closed, List.map_append]
  rfl

/-- The statements of joined scripts are those of the scripts, one after the other. -/
theorem statements_intercalate_junction (sqls : List String)
    (closed : ∀ sql ∈ sqls.dropLast, BlocksClosed sql.toList) :
    statements ("\n;\n".intercalate sqls) = sqls.flatMap statements := by
  induction sqls with
  | nil =>
    have nothing : statements "" = [] := by decide +kernel
    rw [String.intercalate_nil, nothing]
    rfl
  | cons first others ih =>
    cases others with
    | nil => simp
    | cons second others =>
      rw [List.dropLast_cons_cons, List.forall_mem_cons] at closed
      rw [String.intercalate_cons_cons, statements_append_junction closed.1, ih closed.2]
      rfl

end SchemaHistory.Sql
