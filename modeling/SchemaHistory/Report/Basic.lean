import SchemaHistory.Json.Printer
import SchemaHistory.Statement.Basic
import SchemaHistory.Timestamp

/-!
The two reports of a run.

The report of filtered statements is a JSON array with one record per statement; the fields that tell the
reason are there only if there is one. The report of missing statements is SQL that can be run: a heading
in comments, then every statement under a comment that counts it and names its migration. A text
that names a migration is written as it stands.
-/

namespace SchemaHistory.Report

/-- The name of the file with the filtered statements. -/
def filteredFile : String := "filtered-queries.json"

/-- The name of the file with the missing statements. -/
def missingFile : String := "missing-queries.sql"

/-- The record of a statement. -/
def record (s : Statement) : Json :=
  .record <|
    [("query", .text s.text), ("isFilteredQuery", .bool s.isFiltered)] ++
    (match s.filter with
      | some reason => [("filterReason", .text reason.text), ("filterKind", .text reason.kind)]
      | none => []) ++
    [("migrationFile", .text s.source)]

/-- The report of filtered statements. -/
def filteredText (statements : List Statement) : String :=
  (Json.array (statements.map record)).indentedText

/-- The number of a list's length or index. -/
def countText (n : Nat) : String := String.ofList (decimal n)

/-- The lines of one missing statement, which is counted from one. -/
def missingEntry (index : Nat) (s : Statement) : String :=
  "-- Query " ++ countText (index + 1) ++ " (from " ++ s.source ++ "):\n" ++ s.text ++ ";\n"

/-- The report of missing statements. -/
def missingText (missing : List Statement) (generatedAt : Timestamp) : String :=
  if missing.isEmpty then
    "-- No missing queries found\n-- All queries were included in the new migration\n"
  else
    "\n".intercalate <|
      ["-- Queries not included in the new consolidated migration",
        "-- Generated on: " ++ generatedAt.text,
        "-- Total missing queries: " ++ countText missing.length,
        ""] ++
      missing.zipIdx.map fun (s, index) => missingEntry index s

end SchemaHistory.Report
