import SchemaHistory.Text.Blank

/-!
A migration file as a list of statements.

Reading a file takes three passes. Block comments go first, each from its opening mark to the nearest
closing mark; one that is never closed takes the rest of the file with it. Then every line ends at its
first `--`, and lines with nothing left but blanks go. What is left is cut at every `;`, and each piece
that is not blank is a statement, without the blanks around it. Nothing here knows about string
literals: a `--` inside one starts a comment as well.
-/

namespace SchemaHistory.Sql

/-- The text without its block comments. -/
def withoutBlocks (cs : List Char) : List Char :=
  match _opened : cutAt ['/', '*'] cs with
  | none => cs
  | some (before, body) =>
    before ++ match _closed : cutAt ['*', '/'] body with
      | none => []
      | some (_, rest) => withoutBlocks rest
termination_by cs.length
decreasing_by
  have := length_of_cutAt _opened
  have := length_of_cutAt _closed
  simp only [List.length_cons, List.length_nil] at *
  omega

/-- A line up to its first `--`. -/
def codeOfLine (line : List Char) : List Char :=
  match cutAt ['-', '-'] line with
  | none => line
  | some (code, _) => code

/-- The text without its line comments, and without the lines that are blank once those are gone. -/
def withoutLineComments (cs : List Char) : List Char :=
  joinWith '\n' (((pieces (· == '\n') cs).map codeOfLine).filter fun line => !line.all isBlank)

/-- The pieces of a text without comments between its terminators, trimmed, the empty ones left out. -/
def splitStatements (cs : List Char) : List (List Char) :=
  ((pieces (· == ';') cs).map trim).filter (!·.isEmpty)

/-- The statements of a migration file, as lists of characters. -/
def statementsOf (cs : List Char) : List (List Char) :=
  splitStatements (withoutLineComments (withoutBlocks cs))

/-- The statements of a migration file. -/
def statements (sql : String) : List String := (statementsOf sql.toList).map String.ofList

end SchemaHistory.Sql
