import SchemaHistory.History.Basic
import SchemaHistory.Statement.Record

/-!
A history as JSON: an object whose one member `statements` is the array of its statements.
-/

namespace SchemaHistory.History

/-- The record of a history. -/
def toJson (h : History) : Json :=
  .record [("statements", .array (h.statements.map Statement.toJson))]

/-- The compact text of a history. -/
def jsonText (h : History) : String := h.toJson.compactText

/-- Reads a history. The statements stand inside two brackets. -/
def ofJson? (v : Json) : Option History := do
  let [some statements] ← v.fields? ["statements"] | none
  return ⟨← (← statements.list?).mapM (Statement.ofJson? (FilterReason.depthLimit - 2))⟩

/-- Reads the text of a history. -/
def parse? (text : String) : Option History := do ofJson? (← Json.read? text.toList)

end SchemaHistory.History
