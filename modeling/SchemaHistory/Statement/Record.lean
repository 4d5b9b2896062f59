import SchemaHistory.Statement.Basic
import SchemaHistory.Json.Printer
import SchemaHistory.Json.Reader
import SchemaHistory.Json.Record

/-!
Statements and their filter reasons as JSON.

A reason is an object whose member `kind` names its form; the other members are its fields. It can also
be an array, with the name of the form first. A statement has the members `text`, `source`, `position`
and `filter`, the last of which is null or missing while the statement is not filtered.
-/

namespace SchemaHistory

namespace ObjectKind

/-- The record of a kind of object. -/
def toJson (kind : ObjectKind) : Json := .text kind.keyword

/-- The kind of a word in capital letters. -/
def ofWord? (word : String) : Option ObjectKind := all.find? fun kind => kind.keyword == word

/-- Reads a kind: a word, or an object that maps the word to nothing. -/
def ofJson? : Json → Option ObjectKind
  | .string (some word) => ofWord? word
  | .object [(some word, .null)] => ofWord? word
  | .object [(some word, .object [])] => ofWord? word
  | _ => none

end ObjectKind

namespace FilterReason

/-- The value of a reason, the name of its form first. -/
def toJson : FilterReason → Json
  | policy rule reason => .record
    [("kind", .text "policy"), ("rule", .text rule), ("reason", .text reason)]
  | createDropped kind name droppedBy => .record
    [("kind", .text "create_dropped"), ("object_kind", kind.toJson), ("name", .text name),
      ("dropped_by", .nat droppedBy)]
  | constraintDropped table constraint droppedBy => .record
    [("kind", .text "constraint_dropped"), ("table", .text table),
      ("constraint", .text constraint), ("dropped_by", .nat droppedBy)]

/-- Reads the fields of the form with a name. -/
def ofFields? (form : String) (fields : Json) : Option FilterReason :=
  match form with
  | "policy" => do
    let [some rule, some reason] ← fields.fields? ["rule", "reason"] | none
    return policy (← rule.text?) (← reason.text?)
  | "create_dropped" => do
    let [some kind, some name, some droppedBy] ←
      fields.fields? ["object_kind", "name", "dropped_by"] | none
    return createDropped (← ObjectKind.ofJson? kind) (← name.text?) (← droppedBy.nat64?)
  | "constraint_dropped" => do
    let [some table, some constraint, some droppedBy] ←
      fields.fields? ["table", "constraint", "dropped_by"] | none
    return constraintDropped (← table.text?) (← constraint.text?) (← droppedBy.nat64?)
  | _ => none

/-- Reads a reason where brackets may nest `depth` deep. -/
def ofJson? (depth : Nat) (v : Json) : Option FilterReason :=
  if v.wellFormed depth then
    match v with
    | .object members =>
      match Json.valuesOf "kind" members with
      | [.string (some form)] =>
        ofFields? form (.object (members.filter fun m => m.1 != some "kind"))
      | _ => none
    | .array (.string (some form) :: fields) => ofFields? form (.array fields)
    | _ => none
  else none

/-- How deep the brackets of a text may nest. -/
def depthLimit : Nat := 127

/-- Reads the text of a reason. -/
def parse? (text : String) : Option FilterReason := do
  ofJson? depthLimit (← Json.read? text.toList)

/-- The compact text of a reason. -/
def jsonText (r : FilterReason) : String := r.toJson.compactText

end FilterReason

namespace Statement

/-- The value of a statement. -/
def toJson (s : Statement) : Json := .record
  [("text", .text s.text), ("source", .text s.source), ("position", .nat s.position),
    ("filter", match s.filter with
      | none => .null
      | some reason => reason.toJson)]

/-- Reads a filter reason that may be null or missing. -/
def filterOfJson? (depth : Nat) : Option Json → Option (Option FilterReason)
  | none => some none
  | some .null => some none
  | some v => (FilterReason.ofJson? depth v).map some

/-- Reads a statement whose own brackets stand at a place where they may nest `depth` deep. -/
def ofJson? (depth : Nat) (v : Json) : Option Statement := do
  let [some text, some source, some position, filter] ←
    v.fields? ["text", "source", "position", "filter"] | none
  return ⟨← text.text?, ← source.text?, ← position.nat64?, ← filterOfJson? (depth - 1) filter⟩

end Statement

end SchemaHistory
