import SchemaHistory.Sql.Target

/-!
Statements of a migration history, and why some of them are left out.

A statement knows the folder it comes from and its position in the whole history. It is filtered once a
reason is recorded for it; the first reason stays.
-/

namespace SchemaHistory

/-- Why a statement is filtered: a rule of the policy matched it, or a later statement, whose position
is given, drops what it creates or adds. -/
inductive FilterReason where
  | policy (rule reason : String)
  | createDropped (kind : ObjectKind) (name : String) (droppedBy : Nat)
  | constraintDropped (table constraint : String) (droppedBy : Nat)
  deriving Repr, DecidableEq

/-- One SQL statement of one migration. -/
structure Statement where
  text : String
  source : String
  position : Nat
  filter : Option FilterReason
  deriving Repr, DecidableEq

namespace FilterReason

/-- The label of the pass that decided. -/
def kind : FilterReason → String
  | policy .. => "policy"
  | createDropped .. => "create_dropped"
  | constraintDropped .. => "constraint_dropped"

/-- Whether a later statement makes the filtered one redundant. -/
def isRedundancy : FilterReason → Bool
  | policy .. => false
  | _ => true

/-- A word in double quotes, as it stands. -/
def inQuotes (s : String) : String := "\"" ++ s ++ "\""

/-- The reason in words. -/
def text : FilterReason → String
  | policy _ reason => reason
  | createDropped kind name _ =>
    "CREATE " ++ kind.keyword ++ " " ++ inQuotes name ++ " is made redundant by later DROP "
      ++ kind.keyword ++ " " ++ inQuotes name
  | constraintDropped table constraint _ =>
    "ADD CONSTRAINT " ++ inQuotes constraint ++ " on table " ++ inQuotes table
      ++ " is made redundant by later DROP CONSTRAINT " ++ inQuotes constraint

end FilterReason

namespace Statement

/-- A statement that is not filtered. -/
def unfiltered (text source : String) (position : Nat) : Statement := ⟨text, source, position, none⟩

/-- Whether a rule has filtered the statement. -/
def isFiltered (s : Statement) : Bool := s.filter.isSome

/-- Records a reason, unless there is one already. -/
def mark (s : Statement) (reason : FilterReason) : Statement :=
  match s.filter with
  | some _ => s
  | none => { s with filter := some reason }

end Statement

end SchemaHistory
