import SchemaHistory.Text.Blank
import SchemaHistory.Text.Lowercase

/-!
Statements that are the same but for their case and their spacing.

The normal form of a statement is its words in small letters with one space between neighbours. Two
statements are equivalent when their normal forms are equal.
-/

namespace SchemaHistory.Sql

/-- The normal form of a statement, as a list of characters. -/
def normalChars (cs : List Char) : List Char := lower (joinWith ' ' (words cs))

/-- The normal form of a statement. -/
def normal (sql : String) : String := String.ofList (normalChars sql.toList)

/-- Whether two statements are the same but for their case and their spacing. -/
def equivalent (a b : String) : Bool := normal a == normal b

end SchemaHistory.Sql
