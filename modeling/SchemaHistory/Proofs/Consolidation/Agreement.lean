import SchemaHistory.CommandLine.Run
import SchemaHistory.Proofs.Consolidation.Course
import SchemaHistory.Proofs.Consolidation.Rereading

/-!
A consolidation and the comparison that follows it.

The first reads the history where the migrations are, the second where they were moved to; and the second
reads the new migration from a folder into which the reports of the first were written. If the backup is
new and apart from the migrations, if no link is involved and the tool leaves the backup alone, then both
come to the same outcome, unless the path of the backup leads through the history that is moved away, a
path gets too long by the move, or the file of the new migration is taken for a report that is not yet in
its place.
-/

namespace SchemaHistory

open FileSystem SchemaHistory.Path

variable {fs fs' : FileSystem} {p q : Path}

/-- The tool works away from links and leaves a second directory and the way to it alone. -/
def Tool.Spares (tool : Tool) (p q : Path) : Prop :=
  ∀ step fs, fs.WellFormed → fs.Unlinked p → fs.Unlinked q → Backup.Spared p q fs (tool.run step fs).1.files

theorem Backup.BackedUp.of_step {tool : Tool} {names : List Bytes} (backedUp : BackedUp p q names fs fs')
    (spares : tool.Spares p q) (step : ToolStep) : BackedUp p q names fs (tool.run step fs').1.files :=
  backedUp.of_spared (spares step fs' backedUp.ready.wellFormed backedUp.ready.unlinked
    backedUp.ready.unlinked')

namespace Command

variable {at_ : Circumstances} {config : Config} {policy : Policy} {tool : Tool} {schema : Path}

/-! ### Conditions -/

/-- A backup that is not there yet, apart from the migrations, where no link is involved and the lock file
and the file of a migration have names of their own. -/
structure Separate (config : Config) (schema : Path) (fs : FileSystem) : Prop where
  wellFormed : fs.WellFormed
  unlinked : fs.Unlinked (config.migrationsPath schema)
  unlinked' : fs.Unlinked (config.backupPath schema)
  apart : Apart (fs.goalOf (config.migrationsPath schema)) (fs.goalOf (config.backupPath schema))
  fresh : fs.entry? (fs.goalOf (config.backupPath schema)) = none
  valid : ∀ name, fs.entry? (fs.goalOf (config.migrationsPath schema) ++ [name]) = some .directory →
    name.text?.isSome = true
  isLock : IsName (.ofString config.lockFile)
  isFile : IsName (.ofString config.migrationFile)
  noReport : config.migrationFile ∉ [Report.filteredFile, Report.missingFile]

/-- The way of the backup leads through no folder of the history. -/
def Clear (config : Config) (schema : Path) (fs : FileSystem) : Prop :=
  ∀ name, fs.entry? (fs.goalOf (config.migrationsPath schema) ++ [name]) = some .directory →
    ∀ k ∈ fs.wayOf (config.backupPath schema), ¬ fs.goalOf (config.migrationsPath schema) ++ [name] <+: k

/-- The files of the history have paths that are not too long, where they are and where they are moved to. -/
def Short (config : Config) (schema : Path) (fs : FileSystem) : Prop :=
  ∀ name content, fs.entry? (fs.goalOf (config.migrationsPath schema) ++
      [name, .ofString config.migrationFile]) = some (.file content) →
    ∀ directory ∈ [config.migrationsPath schema, config.backupPath schema],
      ((directory.join ⟨name⟩).join (.ofString config.migrationFile)).bytes.length < pathLimit

/-- The names of the files that a run writes its reports to before it moves them to their places. -/
def temporaryNames (run : Nat) : List String :=
  [Report.temporaryName Report.filteredFile run, Report.temporaryName Report.missingFile run]

/-- A comparison after a consolidation finds the migration of the consolidation and comes to its outcome, and
the exit code tells whether anything is missing, if the same configuration and policy are loaded and the
reports can be written if they are asked for. -/
def Agrees (at_ : Circumstances) (config : Config) (policy : Policy) (tool : Tool) (schema : Path)
    (fs : FileSystem) : Prop :=
  ∀ c s, consolidateWith at_ config policy tool schema (.start fs) = .ok c s →
    (∃ n, compare config policy schema (.start s.files) =
      .ok ⟨n, c.migration, c.outcome⟩ (.start s.files)) ∧
    ∀ (later : Circumstances) (programs : Programs) (environment : Option String) (settings : Settings)
      (write : Bool),
      settings.loadConfig (.start s.files) = .ok config (.start s.files) →
      settings.loadPolicy config (.start s.files) = .ok policy (.start s.files) →
      (write = true → succeeded (Report.write later.run c.migration.path c.outcome.filtered
        c.outcome.missing later.now s.files) = true) →
      ((CommandLine.answer later programs environment s.files (.reconcile settings schema write)).code = 1 ↔
        c.outcome.missing ≠ [])

/-! ### A history of one migration -/

/-- The directory of the migrations in `/prisma`. -/
def migrationsOfPrisma : Location := [.ofString "prisma", .ofString "migrations"]

/-- A history of one migration in `/prisma`, with a policy without rules and a configuration that says where
the backup is made and which file a migration is in. -/
def oneMigration (backup file : String) : FileSystem where
  entries := [
    ([.ofString "prisma"], .directory),
    (migrationsOfPrisma, .directory),
    (migrationsOfPrisma ++ [.ofString "m1"], .directory),
    (migrationsOfPrisma ++ [.ofString "m1", .ofString file], .file (.ofString "SELECT 1;")),
    ([.ofString "filters.json"], .file (.ofString "\x7b\"filters\": []\x7d")),
    ([.ofString "migsquash.yml"],
      .file (.ofString ("backup_dir: " ++ backup ++ "\nmigration_file: " ++ file)))]
  workingDirectory := []

/-- The configuration that says no more than that. -/
def configured (backup file : String) : Config :=
  { Config.standard with backupDirectory := backup, migrationFile := file }

/-- A tool that generates the migration `m2` in `/prisma` if there is none yet. -/
def generator (file sql : String) : Tool where
  run step fs :=
    let folder := migrationsOfPrisma ++ [.ofString "m2"]
    let files := match step with
      | .reset => fs
      | .generate =>
        if fs.entry? migrationsOfPrisma = some .directory ∧ fs.entry? folder = none then
          (fs.put folder .directory).put (folder ++ [.ofString file]) (.file (.ofString sql))
        else fs
    (.idle files, .ok ())

theorem spares_generator {file : String} (sql : String) (isFile : IsName (.ofString file))
    (apart : ∀ fs : FileSystem, Apart migrationsOfPrisma (fs.goalOf q)) :
    (generator file sql).Spares p q := by
  intro step fs wf unlinked unlinked'
  cases step with
  | reset => exact .refl wf unlinked unlinked'
  | generate =>
    have outside : ∀ (fs : FileSystem) r, ¬ fs.goalOf q <+: migrationsOfPrisma ++ r := fun fs r below =>
      ((apart fs).append r []).2 (by rwa [List.append_nil])
    rw [generator]
    dsimp only [Trace.idle]
    split
    · rename_i able
      have isName : IsName (.ofString "m2") := by decide
      have first := Backup.Spared.put wf unlinked unlinked' isName able.1 able.2 (e := .directory) (by simp)
        (outside fs _)
      refine first.trans (.put first.wellFormed first.unlinked first.unlinked' isFile ?home ?free
        (by simp) ?_)
      case home => rw [entry?_put (by simp), if_pos rfl]
      case free =>
        rw [entry?_put (by simp), if_neg (by simp), wf.entry?_append_eq_none (by simp [able.2]) (by simp)]
      · rw [List.append_assoc]
        exact outside _ _
    · exact .refl wf unlinked unlinked'

section OneMigration

variable {backup file : String}

theorem eq_of_oneMigration {name : Bytes}
    (there : FileSystem.entry? (oneMigration backup file) (migrationsOfPrisma ++ [name]) = some .directory) :
    name = .ofString "m1" := by
  have listed := mem_namesIn_iff.2 ⟨_, there⟩
  rw [show (oneMigration backup file).namesIn migrationsOfPrisma = [.ofString "m1"] from rfl] at listed
  exact List.mem_singleton.1 listed

theorem separate_oneMigration (wf : (oneMigration backup file).WellFormed)
    (goal : ∀ fs : FileSystem, fs.goalOf ((configured backup file).backupPath (.ofString "/prisma")) =
      [.ofString "prisma", .ofString "bk"]) (isFile : IsName (.ofString file))
    (noReport : file ∉ [Report.filteredFile, Report.missingFile]) :
    Separate (configured backup file) (.ofString "/prisma") (oneMigration backup file) := by
  have noLink : ∀ k t, (k, Entry.link t) ∉ (oneMigration backup file).entries := by simp [oneMigration]
  have isLock : IsName (.ofString Config.standard.lockFile) := by decide
  refine ⟨wf, .of_notMem noLink _, .of_notMem noLink _, ?_, ?_, fun name there => ?_, isLock, isFile,
    noReport⟩
  · rw [goal]
    exact (⟨by decide, by decide⟩ : Apart migrationsOfPrisma [.ofString "prisma", .ofString "bk"])
  · rw [goal]
    rfl
  · rw [eq_of_oneMigration there, Bytes.text?_ofString]
    rfl

theorem spares_oneMigration (sql : String) (isFile : IsName (.ofString file))
    (goal : ∀ fs : FileSystem, fs.goalOf ((configured backup file).backupPath (.ofString "/prisma")) =
      [.ofString "prisma", .ofString "bk"]) :
    (generator file sql).Spares ((configured backup file).migrationsPath (.ofString "/prisma"))
      ((configured backup file).backupPath (.ofString "/prisma")) :=
  spares_generator sql isFile fun fs => by
    rw [goal]
    exact ⟨by decide, by decide⟩

theorem clear_oneMigration (file : String) :
    Clear (configured "bk" file) (.ofString "/prisma") (oneMigration "bk" file) := by
  have way : (oneMigration "bk" file).wayOf ((configured "bk" file).backupPath (.ofString "/prisma")) =
      [[.ofString "prisma"], [.ofString "prisma", .ofString "bk"]] := rfl
  intro name _ k onWay below
  have long : 3 ≤ k.length := below.length_le
  rw [way] at onWay
  have near : ∀ k ∈ [[Bytes.ofString "prisma"], [.ofString "prisma", .ofString "bk"]], k.length < 3 := by
    decide
  exact absurd (near k onWay) (Nat.not_lt.2 long)

theorem short_oneMigration (wf : (oneMigration backup file).WellFormed)
    (short : ∀ directory ∈ [(configured backup file).migrationsPath (.ofString "/prisma"),
        (configured backup file).backupPath (.ofString "/prisma")],
      ((directory.join ⟨.ofString "m1"⟩).join (.ofString file)).bytes.length < pathLimit) :
    Short (configured backup file) (.ofString "/prisma") (oneMigration backup file) := by
  intro name content there
  have folder : FileSystem.entry? (oneMigration backup file) (migrationsOfPrisma ++ [name]) =
      some .directory :=
    wf.directory_of_entry (List.cons_ne_nil _ []) there
  rw [eq_of_oneMigration folder]
  exact short

end OneMigration

/-- Whether a configuration and a policy without rules are loaded from the working directory. -/
def loadsAgain (config : Config) (files : FileSystem) : Bool :=
  decide ((Config.loadFrom (.ofString ".") files).toOption = some config) &&
    decide ((Policy.load (.ofString config.policyPath) files).toOption.map (·.compiled.length) = some 0)

theorem loads_of_loadsAgain {files : FileSystem} (again : loadsAgain config files = true) :
    Settings.loadConfig ⟨none, none⟩ (.start files) = .ok config (.start files) ∧
      Settings.loadPolicy ⟨none, none⟩ config (.start files) = .ok ⟨[]⟩ (.start files) := by
  rw [loadsAgain, Bool.and_eq_true, decide_eq_true_eq, decide_eq_true_eq] at again
  obtain ⟨configured, ruled⟩ := again
  refine ⟨Session.ask_eq_ok_iff.2 ⟨?_, rfl⟩, Session.ask_eq_ok_iff.2 ⟨?_, rfl⟩⟩
  · exact eq_ok_of_toOption configured
  · obtain ⟨⟨rules⟩, loaded, none⟩ := Option.map_eq_some_iff.1 ruled
    obtain rfl : rules = [] := List.length_eq_zero_iff.1 none
    exact eq_ok_of_toOption loaded

/-- What is seen of a consolidation that succeeds and of the comparison after it, if both load the same:
whether nothing is missing, and the exit code of the comparison. -/
def observed (config : Config) (tool : Tool) (fs : FileSystem) : Option (Bool × Nat) :=
  match consolidateWith ⟨⟨0, 0⟩, 7⟩ config ⟨[]⟩ tool (.ofString "/prisma") (.start fs) with
  | .ok c s =>
    if loadsAgain config s.files then
      some (c.outcome.missing.isEmpty, (CommandLine.answer ⟨⟨0, 0⟩, 8⟩ ⟨fun _ _ _ => .error .notFound⟩ none
        s.files (.reconcile ⟨none, none⟩ (.ofString "/prisma") false)).code)
    else none
  | .error _ _ => none

theorem exists_of_observed {complete : Bool} {code : Nat}
    (seen : observed config tool fs = some (complete, code)) :
    ∃ c s, consolidateWith ⟨⟨0, 0⟩, 7⟩ config ⟨[]⟩ tool (.ofString "/prisma") (.start fs) = .ok c s ∧
      c.outcome.missing.isEmpty = complete ∧ loadsAgain config s.files = true ∧
      (CommandLine.answer ⟨⟨0, 0⟩, 8⟩ ⟨fun _ _ _ => .error .notFound⟩ none s.files
        (.reconcile ⟨none, none⟩ (.ofString "/prisma") false)).code = code := by
  rw [observed] at seen
  split at seen
  · rename_i c s done
    split at seen
    · rename_i again
      obtain ⟨same, exited⟩ := Prod.mk.inj (Option.some.inj seen)
      exact ⟨c, s, done, same, again, exited⟩
    · exact nomatch seen
  · exact nomatch seen

/-! ### Agreement -/

theorem ofString_notMem_fileNames {run : Nat}
    (noReport : config.migrationFile ∉ [Report.filteredFile, Report.missingFile])
    (lasting : config.migrationFile ∉ temporaryNames run) :
    Bytes.ofString config.migrationFile ∉ (Report.fileNames run).map Bytes.ofString := by
  intro member
  obtain ⟨file, among, same⟩ := List.mem_map.1 member
  obtain rfl : file = config.migrationFile := Bytes.ofString_injective same
  simp only [Report.fileNames, temporaryNames, List.mem_cons, List.not_mem_nil, or_false, not_or] at *
  tauto

/-- A comparison after a consolidation comes to the outcome of the consolidation. -/
theorem exists_compare_eq_ok {c : Consolidation} {s : Session} (separate : Separate config schema fs)
    (spares : tool.Spares (config.migrationsPath schema) (config.backupPath schema))
    (clear : Clear config schema fs) (short : Short config schema fs)
    (lasting : config.migrationFile ∉ temporaryNames at_.run)
    (done : consolidateWith at_ config policy tool schema (.start fs) = .ok c s) :
    ∃ n, compare config policy schema (.start s.files) =
      .ok ⟨n, c.migration, c.outcome⟩ (.start s.files) := by
  obtain ⟨folders, sources, b, fs₁, m, paths, discovered, nonempty, read, made, ⟨found, written⟩, migration,
    outcome⟩ := consolidateWith_eq_ok done
  obtain ⟨-, opens, -, rfl⟩ := (Folder.discover_goalOf_iff separate.unlinked).1 discovered
  rw [ne_eq, List.map_eq_nil_iff] at nonempty
  have listed := fun name (member : name ∈ Folder.names fs _ _) =>
    (Folder.mem_names_goalOf_iff separate.unlinked separate.wellFormed opens).1 member
  have valid := fun name member => separate.valid name (listed name member).2.2.2
  have backedUp₁ := Backup.backedUp_of_make
    ⟨separate.wellFormed, separate.unlinked, separate.unlinked', separate.apart,
      fun name member => clear name (listed name member).2.2.2⟩
    separate.fresh nonempty (Folder.nodup_names separate.wellFormed)
      (fun name member => (listed name member).1)
    valid (fun name member => (listed name member).2.2.2) separate.isLock made
  -- what is backed up stays through both steps of the tool and while the reports are written
  have backedUp₃ := (backedUp₁.of_step spares .reset).of_step spares .generate
  have ready₃ := backedUp₃.ready
  obtain ⟨n, folder, place⟩ := Folder.exists_place ready₃.wellFormed ready₃.unlinked found
  rw [folder] at written
  have changed := Report.changed_of_write place written
  have backedUp₄ := backedUp₃.of_spared
    (Folder.spared_of_changed place.isName ready₃.unlinked ready₃.unlinked' ready₃.apart changed)
  have found₄ := Folder.findNew_of_changed place ready₃.unlinked separate.isFile
    (ofString_notMem_fileNames separate.noReport lasting) changed folder found
  obtain ⟨noNul, shortName⟩ := Folder.noNul_and_short_of_findNew place separate.isFile folder found
  have readable := Folder.readable_names separate.wellFormed separate.unlinked opens separate.isFile noNul
    shortName fun name _ content there => short name content there _ List.mem_cons_self
  have readable₄ := backedUp₄.readable separate.isFile noNul shortName fun name content there =>
    short name content there _ (List.mem_cons_of_mem _ List.mem_cons_self)
  obtain ⟨sources', read', same⟩ :=
    backedUp₄.exists_sources_eq separate.wellFormed rfl valid readable readable₄ read
  rw [migration, outcome, History.ofFiltered, ← same]
  exact ⟨_, compare_eq_ok (backedUp₄.discover_eq nonempty) read' found₄⟩

theorem code_of_reconcile {programs : Programs} {environment : Option String} {settings : Settings}
    {write found : Bool} {t : Session}
    (reconciled : reconcile at_ settings schema write (.start fs) = .ok found t) :
    (CommandLine.answer at_ programs environment fs (.reconcile settings schema write)).code =
      if found then 0 else 1 := by
  have whole : (do return if ← reconcile at_ settings schema write then 0 else 1 : Session.Action Nat)
      (.start fs) = .ok (if found then 0 else 1) t := by
    refine bind_eq_ok_iff.2 ⟨found, t, reconciled, ?_⟩
    cases found <;> rfl
  rw [CommandLine.answer, CommandLine.Result.ofSession, EStateM.run, whole]

/-- The same history, policy and configuration lead to the same outcome after the history was moved. -/
theorem reconcile_agrees_with_consolidate (separate : Separate config schema fs)
    (spares : tool.Spares (config.migrationsPath schema) (config.backupPath schema))
    (clear : Clear config schema fs) (short : Short config schema fs)
    (lasting : config.migrationFile ∉ temporaryNames at_.run) :
    Agrees at_ config policy tool schema fs := by
  intro c s done
  obtain ⟨n, compared⟩ := exists_compare_eq_ok separate spares clear short lasting done
  refine ⟨⟨n, compared⟩, fun later programs environment settings write configured ruled writable => ?_⟩
  obtain ⟨t, reconciled⟩ := exists_reconcile_eq_ok configured ruled compared writable
  rw [code_of_reconcile reconciled]
  cases c.outcome.missing <;> simp

/-- The one migration `SELECT 1;`, which is not in the generated one. -/
theorem reconcile_agrees_with_consolidate_missing :
    let config := configured "bk" "migration.sql"
    let tool := generator "migration.sql" "CREATE TABLE a (id INT);"
    let schema := Path.ofString "/prisma"
    let fs := oneMigration "bk" "migration.sql"
    (Separate config schema fs ∧ tool.Spares (config.migrationsPath schema) (config.backupPath schema) ∧
      Clear config schema fs ∧ Short config schema fs ∧ config.migrationFile ∉ temporaryNames 7) ∧
      ∃ c s, consolidateWith ⟨⟨0, 0⟩, 7⟩ config ⟨[]⟩ tool schema (.start fs) = .ok c s ∧
        (∃ n, compare config ⟨[]⟩ schema (.start s.files) =
          .ok ⟨n, c.migration, c.outcome⟩ (.start s.files)) ∧
        (CommandLine.answer ⟨⟨0, 0⟩, 8⟩ ⟨fun _ _ _ => .error .notFound⟩ none s.files
          (.reconcile ⟨none, none⟩ schema false)).code = 1 := by
  intro config tool schema fs
  have wf : fs.WellFormed := by decide +kernel
  have separate : Separate config schema fs :=
    separate_oneMigration wf (fun _ => rfl) (by decide) (by decide)
  have spares : tool.Spares (config.migrationsPath schema) (config.backupPath schema) :=
    spares_oneMigration _ (by decide) fun _ => rfl
  have clear : Clear config schema fs := clear_oneMigration _
  have short : Short config schema fs := short_oneMigration wf (by decide +kernel)
  have lasting : config.migrationFile ∉ temporaryNames 7 := by decide +kernel
  have agrees : Agrees ⟨⟨0, 0⟩, 7⟩ config ⟨[]⟩ tool schema fs :=
    reconcile_agrees_with_consolidate separate spares clear short lasting
  obtain ⟨c, s, done, lost, again, -⟩ := exists_of_observed
    (by decide +kernel : observed config tool fs = some (false, 1))
  obtain ⟨configured, ruled⟩ := loads_of_loadsAgain again
  obtain ⟨compared, exited⟩ := agrees c s done
  exact ⟨⟨separate, spares, clear, short, lasting⟩, c, s, done, compared,
    (exited _ _ _ _ false configured ruled fun asked => nomatch asked).2 (List.isEmpty_eq_false_iff.1 lost)⟩

/-- If nothing is missing, the comparison does not fail. -/
theorem not_agrees_of_observed (seen : observed config tool fs = some (true, 1)) :
    ¬ Agrees ⟨⟨0, 0⟩, 7⟩ config ⟨[]⟩ tool (.ofString "/prisma") fs := by
  intro agrees
  obtain ⟨c, s, done, complete, again, exited⟩ := exists_of_observed seen
  obtain ⟨configured, ruled⟩ := loads_of_loadsAgain again
  exact ((agrees c s done).2 _ _ _ _ false configured ruled fun asked => nomatch asked).1 exited
    (List.isEmpty_iff.1 complete)

/-- A backup is not found again whose way leads through a folder of the history, and a new migration is not
whose file has the name that a report is written to at first. -/
theorem not_forall_reconcile_agrees :
    (¬ ∀ (at_ : Circumstances) (config : Config) (policy : Policy) (tool : Tool) (schema : Path)
      (fs : FileSystem), Separate config schema fs →
        tool.Spares (config.migrationsPath schema) (config.backupPath schema) →
          Agrees at_ config policy tool schema fs) ∧
    ¬ ∀ (at_ : Circumstances) (config : Config) (policy : Policy) (tool : Tool) (schema : Path)
      (fs : FileSystem), Separate config schema fs →
        tool.Spares (config.migrationsPath schema) (config.backupPath schema) → Clear config schema fs →
          Short config schema fs → Agrees at_ config policy tool schema fs := by
  constructor
  · intro agree
    have goal : ∀ fs : FileSystem,
        fs.goalOf ((configured "migrations/m1/../../bk" "migration.sql").backupPath (.ofString "/prisma")) =
          [.ofString "prisma", .ofString "bk"] := fun _ => rfl
    have isFile : IsName (.ofString "migration.sql") := by decide
    exact not_agrees_of_observed (by decide +kernel) (agree _ _ _ _ _ _
      (separate_oneMigration (by decide +kernel) goal isFile (by decide))
      (spares_oneMigration "SELECT 1;" isFile goal))
  · intro agree
    have wf : (oneMigration "bk" "missing-queries.sql.7.tmp").WellFormed := by decide +kernel
    have goal : ∀ fs : FileSystem, fs.goalOf ((configured "bk" "missing-queries.sql.7.tmp").backupPath
      (.ofString "/prisma")) = [.ofString "prisma", .ofString "bk"] := fun _ => rfl
    have isFile : IsName (.ofString "missing-queries.sql.7.tmp") := by decide
    exact not_agrees_of_observed (by decide +kernel) (agree _ _ _ _ _ _
      (separate_oneMigration wf goal isFile (by decide)) (spares_oneMigration "SELECT 1;" isFile goal)
      (clear_oneMigration _) (short_oneMigration wf (by decide +kernel)))

end Command

end SchemaHistory
