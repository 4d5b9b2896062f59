import SchemaHistory.History.Basic
import SchemaHistory.Sql.Normal

/-!
What a regenerated migration already contains.

A statement of the history is found in a migration when some statement of the migration is equivalent
to it. Any number of statements may be found in one; the filtered ones are looked for as well.
-/

namespace SchemaHistory

/-- The outcome of reconciling a history with a migration. -/
structure Reconciliation where
  /-- The statements that the migration does not contain. -/
  history : History
  /-- How many statements were found. -/
  removed : Nat
  /-- How many statements the migration contains that are not equivalent to one another. -/
  newStatements : Nat
  deriving Repr

/-- The normal forms of the statements of a migration, each once. -/
def Sql.normalForms (sql : String) : List String := ((Sql.statements sql).map Sql.normal).eraseDups

/-- Takes out every statement that has an equivalent in the migration. -/
def History.reconcile (h : History) (sql : String) : Reconciliation :=
  let forms := Sql.normalForms sql
  let rest := h.retain fun s => !forms.contains (Sql.normal s.text)
  ⟨rest, h.size - rest.size, forms.length⟩

end SchemaHistory
