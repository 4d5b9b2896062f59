import SchemaHistory.Yaml.Node

/-!
Records read from YAML.

A record is written as a mapping of its field names, and one with no fields may be left out. A field that
the record does not have is an error, and so is one that is written twice. Any scalar is a text, however
it is written.
-/

namespace SchemaHistory.Yaml.Node

/-- The text of a scalar. -/
def text? : Node → Option String
  | scalar text _ => some text
  | _ => none

/-- Whether the node is left out. -/
def isMissing : Node → Bool
  | scalar text isPlain => isPlain && text.isEmpty
  | _ => false

/-- The items of a sequence, which may be left out. -/
def items? (n : Node) : Option (List Node) :=
  match n with
  | sequence items => some items
  | _ => if n.isMissing then some [] else none

/-- The entries of a mapping, which may be left out. -/
def entries? (n : Node) : Option (List (Node × Node)) :=
  match n with
  | mapping entries => some entries
  | _ => if n.isMissing then some [] else none

/-- The entries of a mapping whose keys are texts. -/
def textEntries? (n : Node) : Option (List (String × Node)) := do
  (← n.entries?).mapM fun (key, value) => return (← key.text?, value)

/-- The fields of a record, in the order of their names. -/
def fields? (names : List String) (n : Node) : Option (List (Option Node)) := do
  let entries ← n.textEntries?
  let keys := entries.map (·.1)
  if keys.all names.contains && names.all fun name => keys.count name ≤ 1 then
    return names.map fun name => entries.lookup name
  else none

end SchemaHistory.Yaml.Node
