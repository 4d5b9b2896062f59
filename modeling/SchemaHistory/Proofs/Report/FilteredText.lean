import Mathlib.Data.List.Forall2
import SchemaHistory.Proofs.Json.Record
import SchemaHistory.Proofs.Json.RoundTrip
import SchemaHistory.Report.Basic

/-!
The report of filtered statements, read as JSON.

It is an array with one object for each statement, in order. Which members an object has depends on whether
the statement is filtered, and each of them stands there once.
-/

namespace SchemaHistory.Report

open Json

variable {s : Statement}

/-- What the object of a statement says: the text of the statement, the name of its source, whether it is
filtered and, if so, the reason in words and its kind; and nothing else. -/
structure Tells (members : List (Option String × Json)) (s : Statement) : Prop where
  query : valuesOf "query" members = [.text s.text]
  migrationFile : valuesOf "migrationFile" members = [.text s.source]
  isFilteredQuery : valuesOf "isFilteredQuery" members = [.bool s.filter.isSome]
  filterReason : valuesOf "filterReason" members = (s.filter.map fun r => .text r.text).toList
  filterKind : valuesOf "filterKind" members = (s.filter.map fun r => .text r.kind).toList
  noOther : ∀ m ∈ members, m.1 ∈ [some "query", some "migrationFile", some "isFilteredQuery",
    some "filterReason", some "filterKind"]

/-- The members of the record of a statement. -/
def members (s : Statement) : List (String × Json) :=
  [("query", .text s.text), ("isFilteredQuery", .bool s.isFiltered)] ++
  (match s.filter with
    | some reason => [("filterReason", .text reason.text), ("filterKind", .text reason.kind)]
    | none => []) ++
  [("migrationFile", .text s.source)]

theorem record_eq (s : Statement) : Report.record s = Json.object (named (members s)) := rfl

/-- The names of these members. -/
def names (filtered : Bool) : List String :=
  ["query", "isFilteredQuery"] ++ (if filtered then ["filterReason", "filterKind"] else []) ++
    ["migrationFile"]

theorem map_fst_members (s : Statement) : (members s).map (·.1) = names s.isFiltered := by
  cases reason : s.filter <;> simp [members, names, Statement.isFiltered, reason]

theorem nodup_members (s : Statement) : ((members s).map (·.1)).Nodup := by
  have each : ∀ filtered, (names filtered).Nodup := by decide
  rw [map_fst_members]
  exact each _

/-- The record of a statement tells what is known of it. -/
theorem tells_members (s : Statement) : Tells (named (members s)) s where
  query := valuesOf_named (nodup_members s) (by simp [members])
  migrationFile := valuesOf_named (nodup_members s) (by simp [members])
  isFilteredQuery := valuesOf_named (nodup_members s) (by simp [members, Statement.isFiltered])
  filterReason := by
    cases reason : s.filter with
    | none => exact valuesOf_named_of_notMem (by simp [members, reason])
    | some r => exact valuesOf_named (nodup_members s) (by simp [members, reason])
  filterKind := by
    cases reason : s.filter with
    | none => exact valuesOf_named_of_notMem (by simp [members, reason])
    | some r => exact valuesOf_named (nodup_members s) (by simp [members, reason])
  noOther m member := by
    obtain ⟨⟨name, v⟩, inside, rfl⟩ := List.mem_map.1 member
    have listed : name ∈ names s.isFiltered := map_fst_members s ▸ List.mem_map_of_mem inside
    have known : ∀ filtered, ∀ name ∈ names filtered, some name ∈ [some "query", some "migrationFile",
        some "isFilteredQuery", some "filterReason", some "filterKind"] := by decide
    exact known _ name listed

theorem legible_record (s : Statement) : (Report.record s).legible = true := by
  cases reason : s.filter with
  | none => simp [Report.record, reason, Json.record, legible, legibleMembers, Json.text]
  | some r => simp [Report.record, reason, Json.record, legible, legibleMembers, Json.text]

theorem read?_filteredText (statements : List Statement) :
    Json.read? (filteredText statements).toList = some (.array (statements.map Report.record)) :=
  read?_indentedText (legible_array_map fun s _ => legible_record s)

/-- The report of filtered statements can be read without loss: it is an array of objects, one for each
statement and in their order, that tell what is known of the statements. -/
theorem filteredText_tells (statements : List Statement) :
    ∃ objects, Json.read? (filteredText statements).toList = some (.array (objects.map Json.object)) ∧
      List.Forall₂ Tells objects statements := by
  refine ⟨statements.map fun s => named (members s), ?_, ?_⟩
  · have objects : statements.map Report.record =
        (statements.map fun s => named (members s)).map Json.object := by
      rw [List.map_map]
      exact List.map_congr_left fun s _ => record_eq s
    rw [read?_filteredText, objects]
  · rw [List.forall₂_map_left_iff, List.forall₂_same]
    exact fun s _ => tells_members s

end SchemaHistory.Report
