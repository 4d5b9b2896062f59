import SchemaHistory.Proofs.Migration.Listing

/-!
What is read of the migrations in a directory.

Of a folder that a path leads to, the text is the content of its file, or nothing where there is no file;
and a history is made of the texts in which there are statements, so that folders without any make no
difference.
-/

namespace SchemaHistory

open FileSystem SchemaHistory.Path

variable {fs fs' : FileSystem} {p : Path} {fileName : String} {names : List Bytes}

/-! ### Reading in order -/

section MapM

variable {ε α β : Type} {f : α → Except ε β} {l : List α}

/-- Answers to a list of questions of which each is known to have one answer at most. -/
theorem mapM_eq_ok_iff {answered : α → Prop} {g : α → β} {bs : List β}
    (each : ∀ a ∈ l, ∀ b, f a = .ok b ↔ answered a ∧ b = g a) :
    l.mapM f = .ok bs ↔ (∀ a ∈ l, answered a) ∧ bs = l.map g := by
  induction l generalizing bs with
  | nil =>
    rw [List.mapM_nil]
    constructor
    · rintro ⟨⟩
      exact ⟨fun _ member => absurd member List.not_mem_nil, rfl⟩
    · rintro ⟨-, rfl⟩
      rfl
  | cons a rest ih =>
    rw [List.forall_mem_cons] at each
    rw [List.mapM_cons, except_bind_eq_ok_iff, List.forall_mem_cons, List.map_cons]
    constructor
    · rintro ⟨b, first, whole⟩
      obtain ⟨bs', later, ended⟩ := except_bind_eq_ok_iff.1 whole
      obtain rfl := Except.ok.inj ended
      obtain ⟨here, rfl⟩ := (each.1 b).1 first
      obtain ⟨there, rfl⟩ := (ih each.2).1 later
      exact ⟨⟨here, there⟩, rfl⟩
    · rintro ⟨⟨here, there⟩, rfl⟩
      exact ⟨g a, (each.1 _).2 ⟨here, rfl⟩,
        except_bind_eq_ok_iff.2 ⟨rest.map g, (ih each.2).2 ⟨there, rfl⟩, rfl⟩⟩

/-- Parts of a list that add nothing can be left out. -/
theorem flatMap_filter_of_nil {g : α → List β} {q : α → Bool}
    (nothing : ∀ a ∈ l, q a = false → g a = []) : (l.filter q).flatMap g = l.flatMap g := by
  induction l with
  | nil => rfl
  | cons a rest ih =>
    rw [List.forall_mem_cons] at nothing
    rw [List.flatMap_cons]
    cases kept : q a with
    | true => rw [List.filter_cons_of_pos kept, List.flatMap_cons, ih nothing.2]
    | false => rw [List.filter_cons_of_neg (by simp [kept]), ih nothing.2, nothing.1 kept, List.nil_append]

end MapM

/-! ### The text of a migration -/

/-- The SQL text of a migration whose file has a location. A file that is no text has none. -/
def FileSystem.sqlAt (fs : FileSystem) (l : Location) : Option String :=
  match fs.entry? l with
  | some (.file content) => content.text?
  | _ => some ""

theorem FileSystem.sqlAt_of_file {l : Location} {c : Bytes} (there : fs.entry? l = some (.file c)) :
    fs.sqlAt l = c.text? := by
  rw [sqlAt, there]

theorem FileSystem.sqlAt_of_no_file {l : Location} (noFile : ∀ c, fs.entry? l ≠ some (.file c)) :
    fs.sqlAt l = some "" := by
  rw [sqlAt]
  split
  · exact absurd ‹_› (noFile _)
  · rfl

theorem FileSystem.sqlAt_congr {l l' : Location}
    (same : ∀ c, fs'.entry? l' = some (.file c) ↔ fs.entry? l = some (.file c)) :
    fs'.sqlAt l' = fs.sqlAt l := by
  by_cases there : ∃ c, fs.entry? l = some (.file c)
  · obtain ⟨c, there⟩ := there
    rw [sqlAt_of_file there, sqlAt_of_file ((same c).2 there)]
  · rw [not_exists] at there
    rw [sqlAt_of_no_file there, sqlAt_of_no_file fun c found => there c ((same c).1 found)]

/-- The source of a migration by the name of its folder. -/
def Source.named (sql : Bytes → String) (name : Bytes) : Source := ⟨name.shown, sql name⟩

namespace Folder

section Source

variable {f : Folder} (opens : fs.Opens f.path) (isName : IsName (.ofString fileName))
  (noLink : ∀ t, fs.entry? (fs.goalOf f.path ++ [.ofString fileName]) ≠ some (.link t))

include opens isName noLink

/-- The source that a folder gives, if the path of its file can be looked up. -/
theorem source_eq_ok_iff (short : (Bytes.ofString fileName).length ≤ nameLimit)
    (fits : ∀ c, fs.entry? (fs.goalOf f.path ++ [.ofString fileName]) = some (.file c) →
      (f.file fileName).Fits) {s : Source} : f.source fileName fs = .ok s ↔
      (fs.sqlAt (fs.goalOf f.path ++ [.ofString fileName])).isSome = true ∧
        s = ⟨f.name, (fs.sqlAt (fs.goalOf f.path ++ [.ofString fileName])).getD ""⟩ := by
  by_cases there : ∃ c, fs.entry? (fs.goalOf f.path ++ [.ofString fileName]) = some (.file c)
  · obtain ⟨c, there⟩ := there
    have isFile : fs.isFile (f.file fileName) = true :=
      (isFile_join_iff opens isName noLink).2 ⟨fits c there, short, c, there⟩
    have read : ∀ text, fs.readText (f.file fileName) = .ok text ↔ c.text? = some text := fun text => by
      rw [file, Path.ofString, readText_join_eq_ok_iff opens isName noLink]
      constructor
      · rintro ⟨-, -, c', there', valid⟩
        obtain rfl := Entry.file.inj (Option.some.inj (there.symm.trans there'))
        exact valid
      · exact fun valid => ⟨fits c there, short, c, there, valid⟩
    rw [source, if_pos isFile, sqlAt_of_file there, except_bind_eq_ok_iff]
    constructor
    · rintro ⟨text, found, made⟩
      have valid := (read text).1 (mapError_eq_ok_iff.1 found)
      rw [valid]
      exact ⟨rfl, (Except.ok.inj made).symm⟩
    · rintro ⟨valid, rfl⟩
      obtain ⟨text, valid⟩ := Option.isSome_iff_exists.1 valid
      rw [valid]
      exact ⟨text, mapError_eq_ok_iff.2 ((read text).2 valid), rfl⟩
  · rw [not_exists] at there
    have notFile : ¬ fs.isFile (f.file fileName) = true := fun isFile => by
      obtain ⟨-, -, c, found⟩ := (isFile_join_iff opens isName noLink).1 isFile
      exact there c found
    rw [source, if_neg notFile, sqlAt_of_no_file there]
    constructor
    · exact fun made => ⟨rfl, (Except.ok.inj made).symm⟩
    · rintro ⟨-, rfl⟩
      rfl

end Source

/-- Folders with some names, at paths where the file of a migration can be looked up. -/
structure Readable (p : Path) (names : List Bytes) (fileName : String) (fs : FileSystem) : Prop where
  unlinked : fs.Unlinked p
  isFile : IsName (.ofString fileName)
  short : (Bytes.ofString fileName).length ≤ nameLimit
  isName : ∀ name ∈ names, IsName name
  opens : ∀ name ∈ names, fs.Opens (p.join ⟨name⟩)
  fits : ∀ name ∈ names, ∀ c, fs.entry? (fs.goalOf p ++ [name, .ofString fileName]) = some (.file c) →
    ((p.join ⟨name⟩).join (.ofString fileName)).Fits

theorem readable_names (wf : fs.WellFormed) (unlinked : fs.Unlinked p) (opens : fs.Opens p)
    (isFile : IsName (.ofString fileName)) (noNul : (0 : UInt8) ∉ Bytes.ofString fileName)
    (short : (Bytes.ofString fileName).length ≤ nameLimit)
    (within : ∀ name ∈ Folder.names fs p (fs.goalOf p), ∀ c,
      fs.entry? (fs.goalOf p ++ [name, .ofString fileName]) = some (.file c) →
        ((p.join ⟨name⟩).join (.ofString fileName)).bytes.length < pathLimit) :
    Readable p (Folder.names fs p (fs.goalOf p)) fileName fs := by
  have listed : ∀ name ∈ Folder.names fs p (fs.goalOf p), IsName name ∧ (p.join ⟨name⟩).Fits ∧
      name.length ≤ nameLimit ∧ fs.entry? (fs.goalOf p ++ [name]) = some .directory :=
    fun _ => (mem_names_goalOf_iff unlinked wf opens).1
  refine ⟨unlinked, isFile, short, fun name member => (listed name member).1, fun name member => ?_,
    fun name member c there => ?_⟩
  · obtain ⟨isName, -, short', there⟩ := listed name member
    exact (opens_join_iff isName).2 ⟨opens, short', there⟩
  · obtain ⟨-, fits, -⟩ := listed name member
    exact fits_join isFile fits.noNul noNul (within name member c there)

/-- The sources that folders give are the texts below them. -/
theorem sources_eq_ok_iff (readable : Readable p names fileName fs) {sources : List Source} :
    Folder.sources (names.map (inDirectory p)) fileName fs = .ok sources ↔
      (∀ name ∈ names, (fs.sqlAt (fs.goalOf p ++ [name, .ofString fileName])).isSome = true) ∧
        sources = names.map (Source.named fun name =>
          (fs.sqlAt (fs.goalOf p ++ [name, .ofString fileName])).getD "") := by
  rw [Folder.sources, List.mapM_map]
  refine mapM_eq_ok_iff fun name member source => ?_
  have goal : fs.goalOf (p.join ⟨name⟩) ++ [.ofString fileName] =
      fs.goalOf p ++ [name, .ofString fileName] := by
    rw [goalOf_join (readable.isName name member), List.append_assoc, List.singleton_append]
  have read := source_eq_ok_iff (f := inDirectory p name) (s := source) (readable.opens name member)
    readable.isFile
  simp only [inDirectory, goal] at read
  exact read (readable.unlinked.below _) readable.short (readable.fits name member)

/-! ### The new migration -/

theorem findNew_eq_ok_iff {m : NewMigration} : findNew p fileName fs = .ok m ↔
    ∃ rest, discover p fs = .ok (m.folder :: rest) ∧
      fs.readText (m.folder.file fileName) = .ok m.sql := by
  rw [findNew, except_bind_eq_ok_iff]
  constructor
  · rintro ⟨folders, found, first⟩
    split at first
    · exact nomatch first
    · rename_i f rest
      dsimp only at first
      split at first
      · obtain ⟨sql, read, made⟩ := except_bind_eq_ok_iff.1 first
        obtain rfl := Except.ok.inj made
        exact ⟨rest, found, mapError_eq_ok_iff.1 read⟩
      · exact nomatch first
  · rintro ⟨rest, found, read⟩
    refine ⟨_, found, ?_⟩
    dsimp only
    obtain ⟨k, content, there, -⟩ := readText_eq_ok_iff.1 read
    rw [if_pos (isFile_iff.2 ⟨k, content, there⟩), read]
    rfl

end Folder

/-! ### The history -/

theorem Sql.statements_empty : Sql.statements "" = [] := by cbv

/-- Folders whose texts are empty make no difference to a history. -/
theorem History.ofSources_filter {names : List Bytes} {sql : Bytes → String} {q : Bytes → Bool}
    (empty : ∀ name ∈ names, q name = false → sql name = "") :
    ofSources ((names.filter q).map (Source.named sql)) = ofSources (names.map (Source.named sql)) := by
  have found : ∀ names : List Bytes, (names.map (Source.named sql)).flatMap (fun source =>
      (Sql.statements source.sql).map fun text => (text, source.name)) =
      names.flatMap fun name => (Sql.statements (sql name)).map fun text => (text, name.shown) :=
    fun names => by rw [List.flatMap_map]; rfl
  rw [ofSources, ofSources, found, found, flatMap_filter_of_nil fun name member left => ?_]
  rw [empty name member left, Sql.statements_empty, List.map_nil]

end SchemaHistory
