import SchemaHistory.Command.Basic
import SchemaHistory.Proofs.Extraction
import SchemaHistory.Proofs.Redundancy.Pass
import SchemaHistory.Proofs.Script.Junction

/-!
Migrations that are joined into one.

Where one migration ends and the next begins makes no difference to the history but for the names of the
sources. No pass looks at a source, so that the same statements are filtered, for the same reasons.
-/

namespace SchemaHistory

/-- The statement as if it came from a source with another name. -/
def Statement.withSource (name : String) (s : Statement) : Statement := { s with source := name }

namespace History

/-- The history as if it came from a single source. -/
def withSource (name : String) (h : History) : History := h.mapStatements (·.withSource name)

theorem statements_withSource (name : String) (h : History) :
    (h.withSource name).statements = h.statements.map (·.withSource name) := rfl

/-! ### No pass looks at a source -/

section Passes

variable (name : String) (h : History)

theorem applyPolicy_withSource (policy : Policy) :
    (h.withSource name).applyPolicy policy = (h.applyPolicy policy).withSource name := by
  apply eq_of_statements
  rw [statements_withSource, statements_applyPolicy, statements_applyPolicy, statements_withSource,
    List.map_map, List.map_map]
  rfl

theorem undoers_withSource {α : Type} (pairing : Redundancy.Pairing α) :
    pairing.undoers (h.withSource name) = pairing.undoers h := by
  rw [Redundancy.Pairing.undoers, kept, statements_withSource, List.filter_map, List.filterMap_map]
  rfl

theorem reasonFor?_withSource (s : Statement) :
    Redundancy.reasonFor? (h.withSource name) (s.withSource name) = Redundancy.reasonFor? h s := by
  simp only [Redundancy.reasonFor?, Redundancy.Pairing.reasonFor?, undoers_withSource]
  rfl

theorem resolve_withSource : (h.withSource name).resolve = h.resolve.withSource name := by
  apply eq_of_statements
  rw [statements_withSource, statements_resolve, statements_resolve, statements_withSource,
    List.map_map, List.map_map]
  refine List.map_congr_left fun s _ => ?_
  rw [Function.comp, Function.comp, reasonFor?_withSource]
  rfl

theorem filtered_withSource :
    (h.withSource name).filtered = h.filtered.map (·.withSource name) := by
  rw [filtered, statements_withSource, List.filter_map]
  rfl

/-- The totals of a filtered history do not tell the sources. -/
theorem summary_withSource : Summary.ofFiltered (h.withSource name) = Summary.ofFiltered h := by
  have size : (h.withSource name).size = h.size := List.length_map _
  have count : (h.withSource name).filteredCount = h.filteredCount := by
    rw [filteredCount, filtered_withSource, List.length_map]
    rfl
  have counts : (h.withSource name).reasonCounts = h.reasonCounts := by
    rw [reasonCounts, statements_withSource, List.filterMap_map]
    rfl
  rw [Summary.ofFiltered, size, count, counts]
  rfl

end Passes

/-! ### Joining -/

variable {sources : List Source}

/-- The text that the sources have together, with a terminator on a line of its own between neighbours. -/
def joinedSql (sources : List Source) : String := "\n;\n".intercalate (sources.map (·.sql))

theorem statements_joinedSql (closed : ∀ s ∈ sources.dropLast, Sql.BlocksClosed s.sql.toList) :
    Sql.statements (joinedSql sources) = sources.flatMap fun s => Sql.statements s.sql := by
  have each : ∀ sql ∈ (sources.map (·.sql)).dropLast, Sql.BlocksClosed sql.toList := by
    rw [← List.map_dropLast, List.forall_mem_map]
    exact closed
  rw [joinedSql, Sql.statements_intercalate_junction _ each, List.flatMap_map]

/-- The texts that are read of some migrations, each with the name of its source. -/
def readTexts (sources : List Source) : List (String × String) :=
  sources.flatMap fun source => (Sql.statements source.sql).map fun text => (text, source.name)

theorem statements_ofSources (sources : List Source) : (ofSources sources).statements =
    (readTexts sources).zipIdx.map fun ((text, name), position) => .unfiltered text name position := rfl

/-- The history of the joined migration is that of the migrations, but for the names of the sources. -/
theorem ofSources_joinedSql (name : String)
    (closed : ∀ s ∈ sources.dropLast, Sql.BlocksClosed s.sql.toList) :
    ofSources [⟨name, joinedSql sources⟩] = (ofSources sources).withSource name := by
  have texts : readTexts [⟨name, joinedSql sources⟩] =
      (readTexts sources).map fun read => (read.1, name) := by
    rw [readTexts, List.flatMap_singleton, statements_joinedSql closed, readTexts, List.map_flatMap,
      List.map_flatMap]
    simp only [List.map_map]
    rfl
  apply eq_of_statements
  rw [statements_withSource, statements_ofSources, statements_ofSources, texts, List.zipIdx_map,
    List.map_map, List.map_map]
  rfl

end History

/-- Migrations can be joined into one, with a terminator on a line of its own between neighbours, if all but
the last close their block comments. The statements of the whole are those of the parts; the history that
is read differs in the names of sources alone; and whatever the policy, so does the filtered history, so
that its totals are the same. -/
theorem joined_migrations (sources : List Source) (name : String) (policy : Policy)
    (closed : ∀ s ∈ sources.dropLast, Sql.BlocksClosed s.sql.toList) :
    let whole : Source := ⟨name, "\n;\n".intercalate (sources.map (·.sql))⟩
    Sql.statements whole.sql = sources.flatMap (fun s => Sql.statements s.sql) ∧
      History.ofSources [whole] = (History.ofSources sources).withSource name ∧
      History.ofFiltered [whole] policy = (History.ofFiltered sources policy).withSource name ∧
      Summary.ofFiltered (History.ofFiltered [whole] policy) =
        Summary.ofFiltered (History.ofFiltered sources policy) := by
  intro whole
  have read : History.ofSources [whole] = (History.ofSources sources).withSource name :=
    History.ofSources_joinedSql name closed
  have filtered : History.ofFiltered [whole] policy =
      (History.ofFiltered sources policy).withSource name := by
    rw [History.ofFiltered, read, History.applyPolicy_withSource, History.resolve_withSource]
    rfl
  refine ⟨History.statements_joinedSql closed, read, filtered, ?_⟩
  rw [filtered, History.summary_withSource]

/-- Migrations that end in the middle of things: in a line comment, behind a slash, with nothing in them, and
in a block comment that stays open. -/
def openEnded : List Source :=
  [⟨"m1", "CREATE TABLE a (id INT); -- later;"⟩, ⟨"m2", "/* two; */ SELECT 1 /"⟩, ⟨"m3", ""⟩,
    ⟨"m4", "* 2; DROP TABLE a /* never; closed"⟩]

theorem joined_migrations_openEnded :
    (∀ s ∈ openEnded.dropLast, Sql.BlocksClosed s.sql.toList) ∧
      Sql.statements ("\n;\n".intercalate (openEnded.map (·.sql))) =
        openEnded.flatMap fun s => Sql.statements s.sql :=
  have closed : ∀ s ∈ openEnded.dropLast, Sql.BlocksClosed s.sql.toList := by
    simp only [openEnded, List.dropLast_cons_cons, List.dropLast_singleton, List.forall_mem_cons,
      List.not_mem_nil, false_implies, implies_true, and_true]
    exact ⟨.plain (by decide), @Sql.BlocksClosed.comment [] " two; ".toList " SELECT 1 /".toList
      (by decide) (by decide) (.plain (by decide)), .plain (by decide)⟩
  ⟨closed, (joined_migrations openEnded "all" ⟨[]⟩ closed).1⟩

end SchemaHistory
