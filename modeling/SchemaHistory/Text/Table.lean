import SchemaHistory.Text.Blank

/-!
Tables in text.

A table has a line of headings, a line of dashes and one line per row. A column is as wide as its longest
cell, in characters, and two spaces separate columns. Blanks at the end of a line are dropped, except from
the line of dashes.
-/

namespace SchemaHistory.Table

/-- The widths of the columns. -/
def widths (headings : List String) (rows : List (List String)) : List Nat :=
  rows.foldl (fun widths row => widths.zipWith (fun width cell => max width cell.length) row)
    (headings.map String.length)

/-- A cell filled up to a width. -/
def padded (cell : String) (width : Nat) : String :=
  cell ++ String.ofList (List.replicate (width - cell.length) ' ')

/-- The line of a row. -/
def line (widths : List Nat) (row : List String) : String :=
  String.ofList (trimEnd ("  ".intercalate (row.zipWith padded widths)).toList)

/-- The line of dashes. -/
def rule (widths : List Nat) : String :=
  "  ".intercalate (widths.map fun width => String.ofList (List.replicate width '-'))

/-- The lines of a table. -/
def lines (headings : List String) (rows : List (List String)) : List String :=
  let widths := widths headings rows
  line widths headings :: rule widths :: rows.map (line widths)

/-- A text on one line, its words one space apart, and cut to a number of characters. -/
def oneLine (limit : Nat) (text : String) : String :=
  let flat := joinWith ' ' (words text.toList)
  if flat.length ≤ limit then String.ofList flat
  else String.ofList (flat.take (limit - 3)) ++ "..."

end SchemaHistory.Table
