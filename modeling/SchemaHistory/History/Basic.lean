import SchemaHistory.Sql.Script
import SchemaHistory.Statement.Basic

/-!
The history of a schema: the statements of all its migrations, in order.

Reading the migrations gives every statement its place in the whole history as its position. The passes
that follow mark statements as filtered, and only a reconciliation takes statements out, so positions
keep naming places of the full history.
-/

namespace SchemaHistory

/-- The SQL text of one migration folder. -/
structure Source where
  name : String
  sql : String
  deriving Repr, DecidableEq

/-- The statements of a history, in order. -/
structure History where
  statements : List Statement
  deriving Repr, DecidableEq, Inhabited

/-- Adds one to the count of a label, which is appended if it is new. -/
def countLabel (label : String) : List (String × Nat) → List (String × Nat)
  | [] => [(label, 1)]
  | (l, n) :: rest => if l == label then (l, n + 1) :: rest else (l, n) :: countLabel label rest

/-- How often each label occurs, in the order of first occurrence. -/
def tally (labels : List String) : List (String × Nat) :=
  labels.foldl (fun counts label => countLabel label counts) []

namespace History

/-- The statements of a list of migrations, each with its place in the whole as its position. -/
def ofSources (sources : List Source) : History :=
  let found := sources.flatMap fun source =>
    (Sql.statements source.sql).map fun text => (text, source.name)
  ⟨found.zipIdx.map fun ((text, name), position) => .unfiltered text name position⟩

/-- The number of statements. -/
def size (h : History) : Nat := h.statements.length

/-- Whether there are no statements. -/
def isEmpty (h : History) : Bool := h.statements.isEmpty

/-- The filtered statements, in order. -/
def filtered (h : History) : List Statement := h.statements.filter (·.isFiltered)

/-- The statements that are not filtered, in order. -/
def kept (h : History) : List Statement := h.statements.filter (!·.isFiltered)

/-- The number of statements that are filtered. -/
def filteredCount (h : History) : Nat := h.filtered.length

/-- The number of statements that are not filtered. -/
def keptCount (h : History) : Nat := h.size - h.filteredCount

/-- How many statements are filtered for each reason, by the reason in words. -/
def reasonCounts (h : History) : List (String × Nat) :=
  tally (h.statements.filterMap fun s => s.filter.map (·.text))

/-- The history with every statement replaced. -/
def mapStatements (f : Statement → Statement) (h : History) : History := ⟨h.statements.map f⟩

/-- The history without the statements for which `keep` does not hold. -/
def retain (keep : Statement → Bool) (h : History) : History := ⟨h.statements.filter keep⟩

/-- Records a reason for the statement at an index of the list. -/
def markAt (h : History) (index : Nat) (reason : FilterReason) : History :=
  ⟨h.statements.modify index (·.mark reason)⟩

end History

end SchemaHistory
