import SchemaHistory.History.Record
import SchemaHistory.Proofs.Json.Record
import SchemaHistory.Proofs.Json.RoundTrip
import SchemaHistory.Proofs.Redundancy.Citation

/-!
Histories that are written as JSON and read back.

Nothing is lost on the way: what is read is the history that was written, with every text, every position
and every reason. The numbers have to fit into sixty-four bits, since larger ones are not read.
-/

namespace SchemaHistory

open Json

/-! ### Kinds and reasons -/

theorem ObjectKind.ofJson?_toJson (kind : ObjectKind) : ofJson? kind.toJson = some kind := by
  cases kind <;> rfl

namespace FilterReason

variable {r : FilterReason}

/-- The position that the reason cites, if any, has at most sixty-four bits. -/
def Fits (r : FilterReason) : Prop := ∀ d ∈ r.citedPosition?, d < UInt64.size

instance (r : FilterReason) : Decidable r.Fits :=
  inferInstanceAs (Decidable (∀ d ∈ r.citedPosition?, d < UInt64.size))

/-- The fields of a reason, without the name of its form. -/
def fields : FilterReason → List (String × Json)
  | policy rule reason => [("rule", .text rule), ("reason", .text reason)]
  | createDropped kind name droppedBy =>
    [("object_kind", kind.toJson), ("name", .text name), ("dropped_by", .nat droppedBy)]
  | constraintDropped table constraint droppedBy =>
    [("table", .text table), ("constraint", .text constraint), ("dropped_by", .nat droppedBy)]

theorem toJson_eq (r : FilterReason) : r.toJson = record (("kind", .text r.kind) :: r.fields) := by
  cases r <;> rfl

theorem nodup_fields (r : FilterReason) : ("kind" :: r.fields.map (·.1)).Nodup := by
  cases r <;> simp [fields]

theorem ofFields?_fields (fits : r.Fits) : ofFields? r.kind (record r.fields) = some r := by
  have found := fields?_record r.nodup_fields.of_cons
  cases r with
  | policy rule reason =>
    simp only [fields, List.map_cons, List.map_nil] at found
    simp [kind, ofFields?, fields, found]
  | createDropped object name d =>
    have small : d < UInt64.size := fits d rfl
    simp only [fields, List.map_cons, List.map_nil] at found
    simp [kind, ofFields?, fields, found, object.ofJson?_toJson, nat64?_nat small]
  | constraintDropped table constraint d =>
    have small : d < UInt64.size := fits d rfl
    simp only [fields, List.map_cons, List.map_nil] at found
    simp [kind, ofFields?, fields, found, nat64?_nat small]

theorem wellFormed_toJson (r : FilterReason) (depth : Nat) :
    r.toJson.wellFormed (depth + 1) = true := by
  cases r <;> simp [toJson, record, wellFormed, wellFormedMembers, ObjectKind.toJson, Json.text, nat,
    Numeral.natural?, Numeral.ofNat]

theorem legible_toJson (r : FilterReason) : r.toJson.legible = true := by
  cases r <;> simp [toJson, record, legible, legibleMembers, ObjectKind.toJson, Json.text, nat,
    Numeral.ofNat]

/-- A reason is read from its record, wherever there is room for a pair of brackets. -/
theorem ofJson?_toJson (fits : r.Fits) (depth : Nat) : ofJson? (depth + 1) r.toJson = some r := by
  have wellFormed := r.wellFormed_toJson depth
  have kind : valuesOf "kind" (named (("kind", .text r.kind) :: r.fields)) = [.text r.kind] :=
    valuesOf_named r.nodup_fields List.mem_cons_self
  have others := filter_named_cons (v := .text r.kind) (List.nodup_cons.1 r.nodup_fields).1
  rw [toJson_eq, record_eq_object_named] at wellFormed ⊢
  rw [ofJson?, if_pos wellFormed]
  simp only [kind, others]
  exact ofFields?_fields fits

end FilterReason

/-! ### Statements and histories -/

namespace Statement

variable {s : Statement}

/-- All positions that the statement holds have at most sixty-four bits. -/
structure Fits (s : Statement) : Prop where
  position : s.position < UInt64.size
  filter : ∀ r ∈ s.filter, r.Fits

instance (s : Statement) : Decidable s.Fits :=
  decidable_of_iff (s.position < UInt64.size ∧ ∀ r ∈ s.filter, r.Fits)
    ⟨fun ⟨position, filter⟩ => ⟨position, filter⟩, fun fits => ⟨fits.position, fits.filter⟩⟩

/-- The value that tells why a statement is filtered, if it is. -/
def filterValue : Option FilterReason → Json
  | none => .null
  | some r => r.toJson

theorem toJson_eq (s : Statement) : s.toJson = record
    [("text", .text s.text), ("source", .text s.source), ("position", .nat s.position),
      ("filter", filterValue s.filter)] := rfl

theorem legible_toJson (s : Statement) : s.toJson.legible = true := by
  have reason : (filterValue s.filter).legible = true := by
    cases s.filter with
    | none => rfl
    | some r => exact r.legible_toJson
  simp [toJson_eq, record, legible, legibleMembers, Json.text, nat, Numeral.ofNat, reason]

theorem filterOfJson?_filterValue {reason? : Option FilterReason} (fits : ∀ r ∈ reason?, r.Fits)
    (depth : Nat) : filterOfJson? (depth + 1) (some (filterValue reason?)) = some reason? := by
  cases reason? with
  | none => rfl
  | some r =>
    -- the record of a reason is an object, and not the null that stands for none
    have object : filterOfJson? (depth + 1) (some (filterValue (some r))) =
        (FilterReason.ofJson? (depth + 1) r.toJson).map some := by
      rw [filterValue, r.toJson_eq]
      rfl
    rw [object, FilterReason.ofJson?_toJson (fits r rfl), Option.map_some]

/-- A statement is read from its record, wherever there is room for two pairs of brackets. -/
theorem ofJson?_toJson (fits : s.Fits) (depth : Nat) : ofJson? (depth + 2) s.toJson = some s := by
  have found : s.toJson.fields? ["text", "source", "position", "filter"] = _ := fields?_record (by simp)
  simp only [List.map_cons, List.map_nil] at found
  change _ = some [_, _, _, some (filterValue s.filter)] at found
  simp [ofJson?, found, nat64?_nat fits.position, filterOfJson?_filterValue fits.filter]

end Statement

namespace History

variable {h : History}

theorem legible_toJson (h : History) : h.toJson.legible = true := by
  have each : (array (h.statements.map Statement.toJson)).legible = true :=
    legible_array_map fun s _ => s.legible_toJson
  rw [toJson, record, legible]
  simp [legibleMembers, each]

/-- A history is read from the text that is written for it. -/
theorem parse?_jsonText (fits : ∀ s ∈ h.statements, s.Fits) : parse? h.jsonText = some h := by
  have found : h.toJson.fields? ["statements"] = _ := fields?_record (by simp)
  have each : (h.statements.map Statement.toJson).mapM
      (Statement.ofJson? (FilterReason.depthLimit - 2)) = some (h.statements.map id) := by
    rw [List.mapM_map]
    exact mapM_of_forall_some fun s member => Statement.ofJson?_toJson (fits s member) _
  rw [List.map_id] at each
  rw [parse?, jsonText, read?_compactText h.legible_toJson]
  simp [ofJson?, found, list?, each]

end History

/-- What is kept of a run between its steps survives being written: a history is read from its text as it
was, and so is a reason by itself. The text of a reason is that of a record which names the form of the
reason in front of its fields, and the reason is read from this record too. -/
theorem written_state_reloads (h : History) (r : FilterReason) (fits : ∀ s ∈ h.statements, s.Fits)
    (fits' : r.Fits) :
    History.parse? h.jsonText = some h ∧ FilterReason.parse? r.jsonText = some r ∧
      Json.read? r.jsonText.toList = some (record (("kind", .text r.kind) :: r.fields)) ∧
      FilterReason.ofJson? FilterReason.depthLimit (record (("kind", .text r.kind) :: r.fields)) =
        some r := by
  have read : Json.read? r.jsonText.toList = some r.toJson := read?_compactText r.legible_toJson
  have found : FilterReason.ofJson? FilterReason.depthLimit r.toJson = some r :=
    FilterReason.ofJson?_toJson fits' _
  refine ⟨History.parse?_jsonText fits, ?_, r.toJson_eq ▸ read, r.toJson_eq ▸ found⟩
  rw [FilterReason.parse?, read]
  exact found

/-- Statements with characters that are written as escapes, and with the largest numbers there are. -/
def extremeHistory : History :=
  ⟨[.unfiltered "SELECT '\u0000\u0001\u001f\u007f\u2028\uffff'" "a\tb\\c\"d/e" 0,
    ⟨"CREATE VIEW \"v\"\r\n AS SELECT '😀'", "", 18446744073709551615,
      some (.createDropped .view "v\u0008\u000c" 18446744073709551615)⟩,
    ⟨"", "é\ud7ff\ue000", 7, some (.policy "\\u0041" "\"kind\": null")⟩,
    ⟨"ALTER TABLE t ADD CONSTRAINT c CHECK (x)", "last", 3, some (.constraintDropped "t\n" "c" 9)⟩]⟩

theorem written_state_reloads_extreme :
    let reason : FilterReason := .createDropped .view "v\u0008\u000c" 18446744073709551615
    (∀ s ∈ extremeHistory.statements, s.Fits) ∧ reason.Fits ∧
      History.parse? extremeHistory.jsonText = some extremeHistory ∧
      FilterReason.parse? reason.jsonText = some reason := by
  intro reason
  have fits : ∀ s ∈ extremeHistory.statements, s.Fits := by decide
  have fits' : reason.Fits := by decide
  have reloads := written_state_reloads extremeHistory reason fits fits'
  exact ⟨fits, fits', reloads.1, reloads.2.1⟩

end SchemaHistory
