import SchemaHistory.Proofs.Files.Made
import SchemaHistory.Proofs.Migration.Refusal

/-!
What a backup conserves.

Between the state before a backup and the one after it there are two more: the backup directory has been
made, and the folders have been moved. Each step says what it keeps of the state before it, so that every
entry is followed from the first state to the last one: the folders to their new places, all else to where
it was.
-/

namespace SchemaHistory

open FileSystem SchemaHistory.Path Action

variable {fs fs' made moved : FileSystem} {p q : Path} {k : Location} {e : Entry} {name lock : Bytes}
  {names : List Bytes} {folders : List Folder} {lockFile : String} {b : Backup}

namespace Backup

/-- What was at one location is at the other one later, or nothing was there before and a directory has been
made there, on the way of a path. -/
def SameOrMade (q : Path) (k k' : Location) (fs fs' : FileSystem) : Prop :=
  fs'.entry? k' = fs.entry? k ∨ k ∈ fs.wayOf q ∧ fs.entry? k = none ∧ fs'.entry? k' = some .directory

theorem sameOrMade_of_grown (grown : GrownAlong q fs fs') (k : Location) : SameOrMade q k k fs fs' := by
  refine (grown.entry k).imp id fun ⟨nothing, made⟩ => ⟨grown.onWay k nothing ?_, nothing, made⟩
  simp [made]

/-! ### The steps of a backup -/

/-- The states of a backup that succeeds: before it, with its directory made, with the folders moved, and at
its end. -/
structure Run (p q : Path) (names : List Bytes) (lock : Bytes) (fs made moved fs' : FileSystem) : Prop where
  parted : Parted p q fs
  grown : GrownAlong q fs made
  free : ∀ name ∈ names, made.entry? (fs.goalOf q ++ [name]) = none
  transferred : Transferred names (fs.goalOf p) (fs.goalOf q) made moved
  unlinked : moved.Unlinked p
  last : moved.isFile (p.join ⟨lock⟩) = false ∧ fs' = moved ∨
    moved.isFile (p.join ⟨lock⟩) = true ∧ Copied (fs.goalOf p ++ [lock]) (fs.goalOf q ++ [lock]) moved fs'

theorem run_of_make (parted : Parted p q fs) (nodup : names.Nodup) (areNames : ∀ name ∈ names, IsName name)
    (valid : ∀ name ∈ names, name.text?.isSome = true) (isLock : IsName (.ofString lockFile))
    (done : make (names.map (Folder.inDirectory p)) p q lockFile fs = .ok b fs') : ∃ made moved,
      Run p q names (.ofString lockFile) fs made moved fs' ∧
        b = ⟨(names.map (Folder.inDirectory p)).map (·.name),
          moved.isFile (p.join (.ofString lockFile))⟩ := by
  obtain ⟨u, u', made, moved, directories, checked, moves, rfl, last⟩ := make_eq_ok done
  have grown : GrownAlong q fs made := by
    have grown := grownAlong_makeDirectories parted.unlinked'
    rwa [directories] at grown
  have goals := goalOf_congr grown.workingDirectory
  have parted₁ := parted.of_grown grown.toGrown
  obtain ⟨transferred, parted₂, target⟩ := transferred_of_forM parted₁ nodup areNames valid moves
  refine ⟨made, moved, ⟨parted, grown, fun name member => ?free, ?transferred, parted₂.unlinked, ?last⟩, rfl⟩
  case free =>
    rw [← goals]
    exact (target (List.ne_nil_of_mem member)).free parted₁.unlinked' areNames valid checked name member
  case transferred => rwa [goals, goals] at transferred
  case last =>
    refine last.imp id fun ⟨there, _, copied⟩ => ⟨there, ?_⟩
    have copied := copied_of_copy parted₂.unlinked parted₂.unlinked' isLock isLock
      (parted₂.apart.append_ne _ _) copied
    rwa [goalOf_congr transferred.workingDirectory, goalOf_congr transferred.workingDirectory, goals, goals]
      at copied

namespace Run

variable (run : Run p q names lock fs made moved fs')

include run

theorem workingDirectory : moved.workingDirectory = fs.workingDirectory :=
  run.transferred.workingDirectory.trans run.grown.workingDirectory

/-- The last step changes nothing but the copy of the lock file. -/
theorem entry_eq (other : moved.isFile (p.join ⟨lock⟩) = true → k ≠ fs.goalOf q ++ [lock]) :
    fs'.entry? k = moved.entry? k := by
  rcases run.last with ⟨-, rfl⟩ | ⟨there, copied⟩
  · rfl
  · exact copied.others k (other there)

/-- What is not in a folder stays while the folders are moved. -/
theorem kept (there : fs.entry? k = some e) (outside : ∀ name ∈ names, ¬ fs.goalOf p ++ [name] <+: k) :
    moved.entry? k = some e :=
  run.transferred.kept (run.grown.wellFormed run.parted.wellFormed) run.free
    (run.grown.entry?_of_some there) outside

theorem gone (member : name ∈ names) (r : Location) : fs'.entry? (fs.goalOf p ++ name :: r) = none := by
  rw [run.entry_eq fun _ => run.parted.apart.append_ne (name :: r) [lock]]
  exact run.transferred.gone name member r

end Run

/-- The lock file is a file in the directory of the migrations, and its path leads to it also when the
folders are gone: it is not too long, and leads through none of them. -/
structure HasLockFile (folders : List Folder) (p : Path) (lock : Bytes) (fs : FileSystem) : Prop where
  there : ∃ content, fs.entry? (fs.goalOf p ++ [lock]) = some (.file content)
  fits : (p.join ⟨lock⟩).Fits
  short : lock.length ≤ nameLimit
  clear : ∀ f ∈ folders, ∀ k ∈ fs.wayOf p, ¬ fs.goalOf p ++ [.ofString f.name] <+: k

section Folders

variable (run : Run p q names lock fs made moved fs') (isLock : IsName lock)
  (folder : ∀ name ∈ names, fs.entry? (fs.goalOf p ++ [name]) = some .directory)

include run isLock folder

/-- The lock file is none of the folders. -/
theorem Run.kept_lock {content : Bytes} (there : fs.entry? (fs.goalOf p ++ [lock]) = some (.file content)) :
    moved.entry? (fs.goalOf p ++ [lock]) = some (.file content) := by
  refine run.kept there fun name member same => ?_
  obtain rfl := concat_prefix_append_cons_iff.1 same
  exact nomatch (folder name member).symm.trans there

theorem Run.isFile_iff (opens : fs.Opens p) : moved.isFile (p.join ⟨lock⟩) = true ↔
    (∃ content, fs.entry? (fs.goalOf p ++ [lock]) = some (.file content)) ∧ (p.join ⟨lock⟩).Fits ∧
      lock.length ≤ nameLimit ∧ ∀ name ∈ names, ∀ k ∈ fs.wayOf p, ¬ fs.goalOf p ++ [name] <+: k := by
  rw [run.unlinked.isFile_join_iff isLock, goalOf_congr run.workingDirectory]
  constructor
  · rintro ⟨opens', fits, short, content, there⟩
    refine ⟨⟨content, ?_⟩, fits, short, fun name member k onWay inside => ?_⟩
    · have outside : ∀ name ∈ names, ¬ fs.goalOf p ++ [name] <+: fs.goalOf p ++ [lock] := by
        intro name member same
        obtain rfl := concat_prefix_append_cons_iff.1 same
        exact nomatch (run.transferred.gone name member []).symm.trans there
      rw [run.transferred.others _ outside fun name _ => (run.parted.apart.append [lock] [name]).2] at there
      exact run.grown.of_entry? there (by simp)
    · -- nothing is left of the folder that the way would lead through
      obtain ⟨r, rfl⟩ := inside
      rw [← wayOf_congr run.workingDirectory] at onWay
      have directory := opens'.directories _ onWay
      rw [List.append_assoc] at directory
      exact nomatch (run.transferred.gone name member r).symm.trans directory
  · rintro ⟨⟨content, there⟩, fits, short, clear⟩
    refine ⟨opens.congr run.workingDirectory fun k onWay directory => ?_, fits, short, content, ?_⟩
    · exact run.kept directory fun name member => clear name member k onWay
    · exact run.kept_lock isLock folder there

/-- A folder is found at its new place, with directories that were made in it. -/
theorem Run.arrived (member : name ∈ names) (opens : fs.Opens p) (r : Location) :
    SameOrMade q (fs.goalOf p ++ name :: r) (fs.goalOf q ++ name :: r) fs fs' := by
  have other : moved.isFile (p.join ⟨lock⟩) = true → fs.goalOf q ++ name :: r ≠ fs.goalOf q ++ [lock] := by
    intro isFile same
    obtain ⟨⟨content, there⟩, -⟩ := (run.isFile_iff isLock folder opens).1 isFile
    obtain ⟨rfl, -⟩ := List.cons.inj (List.append_cancel_left same)
    exact nomatch (folder name member).symm.trans there
  rw [SameOrMade, run.entry_eq other, run.transferred.arrived name member]
  exact sameOrMade_of_grown run.grown _

end Folders

/-! ### Backups that fail at the checks -/

/-- A refused access is not taken for a backup that exists. -/
theorem at_ne_backupExists {α : Type} {x : Action SystemError α} {source path : Path} :
    x.at source fs ≠ .error (.backupExists path) fs' := fun failed => by
  obtain ⟨_, -, same⟩ := adaptExcept_eq_error_iff.1 failed
  exact nomatch same

/-- A backup that exists is found before anything is moved. -/
theorem eq_prepared_of_backupExists {path : Path}
    (failed : make folders p q lockFile fs = .error (.backupExists path) fs') : fs' = prepared q fs := by
  rw [make, bind_eq_error_iff] at failed
  obtain ⟨_, made, directories, failed⟩ := failed.resolve_left at_ne_backupExists
  have same : prepared q fs = made := congrArg leftBy (adaptExcept_eq_ok_iff.1 directories)
  rw [same]
  rcases bind_eq_error_iff.1 failed with refused | ⟨_, _, -, moves⟩
  · have checks := leftBy_forM_check folders q made
    rwa [refused] at checks
  -- neither a move nor the copy of the lock file fails in this way
  obtain ⟨_, moved, -, copies⟩ := (bind_eq_error_iff.1 moves).resolve_left fun refused => by
    obtain ⟨_, -, _, refused⟩ := exists_of_forM_eq_error refused
    exact at_ne_backupExists refused
  obtain ⟨_, _, ⟨⟩, copied⟩ := (bind_eq_error_iff.1 copies).resolve_left fun refused => by cases refused
  dsimp only at copied
  split at copied
  · obtain ⟨_, _, -, ⟨⟩⟩ := (bind_eq_error_iff.1 copied).resolve_left at_ne_backupExists
  · cases copied

/-! ### The whole backup -/

/-- What holds after a backup that succeeds: the folders are at their new places as they were, with
directories that were made in them, what was in the backup is still there, and the lock file is
there twice. -/
structure Conserved (folders : List Folder) (p q : Path) (lock : Bytes) (fs : FileSystem) (b : Backup)
    (fs' : FileSystem) : Prop where
  workingDirectory : fs'.workingDirectory = fs.workingDirectory
  moved : b.moved = folders.map (·.name)
  ascending : b.moved.Pairwise fun x y => Bytes.ofString x < .ofString y
  gone : ∀ f ∈ folders, ∀ r, fs'.entry? (fs.goalOf p ++ .ofString f.name :: r) = none
  arrived : ∀ f ∈ folders, fs'.entry? (fs.goalOf q ++ [.ofString f.name]) = some .directory
  content : ∀ f ∈ folders, ∀ r,
    SameOrMade q (fs.goalOf p ++ .ofString f.name :: r) (fs.goalOf q ++ .ofString f.name :: r) fs fs'
  kept : ∀ r e, fs.entry? (fs.goalOf q ++ r) = some e → (b.lockFileCopied = true → r ≠ [lock]) →
    fs'.entry? (fs.goalOf q ++ r) = some e
  lockFileCopied : b.lockFileCopied = true ↔ HasLockFile folders p lock fs
  lockFile : ∀ c, fs.entry? (fs.goalOf p ++ [lock]) = some (.file c) →
    fs'.entry? (fs.goalOf p ++ [lock]) = some (.file c) ∧
      (b.lockFileCopied = true → fs'.entry? (fs.goalOf q ++ [lock]) = some (.file c))

theorem Run.conserved (run : Run p q names lock fs made moved fs') (isLock : IsName lock)
    (opens : fs.Opens p) (folder : ∀ name ∈ names, fs.entry? (fs.goalOf p ++ [name]) = some .directory)
    (valid : ∀ name ∈ names, name.text?.isSome = true)
    (ascending : names.Pairwise fun x y => Bytes.ofString x.shown < .ofString y.shown) :
    Conserved (names.map (Folder.inDirectory p)) p q lock fs
      ⟨(names.map (Folder.inDirectory p)).map (·.name), moved.isFile (p.join ⟨lock⟩)⟩ fs' := by
  have shown : ∀ name ∈ names, Bytes.ofString (Folder.inDirectory p name).name = name := fun name member =>
    Bytes.ofString_shown (valid name member)
  have arrived := fun name (member : name ∈ names) => run.arrived isLock folder member opens
  refine ⟨?workingDirectory, rfl, ?ascending, List.forall_mem_map.2 fun name member r => ?gone,
    List.forall_mem_map.2 fun name member => ?arrived, List.forall_mem_map.2 fun name member r => ?content,
    fun r e there other => ?kept, ?lockFileCopied, fun c there => ⟨?still, fun isFile => ?copy⟩⟩
  case workingDirectory =>
    rcases run.last with ⟨-, rfl⟩ | ⟨-, copied⟩
    · exact run.workingDirectory
    · exact copied.workingDirectory.trans run.workingDirectory
  case ascending =>
    rw [List.map_map, List.pairwise_map]
    exact ascending
  case gone =>
    rw [shown name member]
    exact run.gone member r
  case arrived =>
    rw [shown name member]
    have there := folder name member
    rcases arrived name member [] with same | ⟨-, nothing, -⟩
    · rw [same, there]
    · exact nomatch nothing.symm.trans there
  case content =>
    rw [shown name member]
    exact arrived name member r
  case kept =>
    rw [run.entry_eq fun isFile same => other isFile (List.append_cancel_left same)]
    exact run.kept there fun name _ => (run.parted.apart.append [name] r).1
  case lockFileCopied =>
    rw [run.isFile_iff isLock folder opens]
    have clear : (∀ f ∈ names.map (Folder.inDirectory p), ∀ k ∈ fs.wayOf p,
        ¬ fs.goalOf p ++ [.ofString f.name] <+: k) ↔
          ∀ name ∈ names, ∀ k ∈ fs.wayOf p, ¬ fs.goalOf p ++ [name] <+: k := by
      rw [List.forall_mem_map]
      exact forall₂_congr fun name member => by rw [shown name member]
    rw [← clear]
    exact ⟨fun ⟨there, fits, short, clear⟩ => ⟨there, fits, short, clear⟩,
      fun has => ⟨has.there, has.fits, has.short, has.clear⟩⟩
  case still =>
    rw [run.entry_eq fun _ => run.parted.apart.append_ne [lock] [lock]]
    exact run.kept_lock isLock folder there
  case copy =>
    rcases run.last with ⟨missing, -⟩ | ⟨-, copied⟩
    · exact nomatch missing.symm.trans isFile
    · obtain ⟨c', source, target⟩ := copied.content
      rw [target, ← source, run.kept_lock isLock folder there]

/-- A backup of the folders that are found in a directory, all of them with names that are texts, and of a
lock file with a plain name. -/
structure Regular (folders : List Folder) (p q : Path) (lockFile : String) (fs : FileSystem) : Prop extends
    Parted p q fs where
  isLock : IsName (.ofString lockFile)
  valid : ∀ name, fs.entry? (fs.goalOf p ++ [name]) = some .directory → name.text?.isSome = true
  found : Folder.discover p fs = .ok folders

/-- A backup that succeeds has moved all folders and conserved the history, and one that finds an earlier
backup has at most made directories for its own. -/
theorem history_conserved (regular : Regular folders p q lockFile fs) :
    (∀ b fs', make folders p q lockFile fs = .ok b fs' →
      Conserved folders p q (.ofString lockFile) fs b fs') ∧
    ∀ path fs', make folders p q lockFile fs = .error (.backupExists path) fs' →
      fs'.workingDirectory = fs.workingDirectory ∧ ∀ k, SameOrMade q k k fs fs' := by
  constructor
  · intro b fs' done
    obtain ⟨-, opens, -, rfl⟩ := (Folder.discover_goalOf_iff regular.unlinked).1 regular.found
    have listed := fun name (member : name ∈ Folder.names fs p (fs.goalOf p)) =>
      (Folder.mem_names_goalOf_iff regular.unlinked regular.wellFormed opens).1 member
    have folder := fun name member => (listed name member).2.2.2
    have valid := fun name member => regular.valid name (folder name member)
    obtain ⟨made, moved, run, rfl⟩ := run_of_make regular.toParted (Folder.nodup_names regular.wellFormed)
      (fun name member => (listed name member).1) valid regular.isLock done
    exact run.conserved regular.isLock opens folder valid (Folder.ascending_names regular.wellFormed valid)
  · intro path fs' failed
    rw [eq_prepared_of_backupExists failed]
    have grown := grownAlong_makeDirectories regular.unlinked'
    exact ⟨grown.workingDirectory, sameOrMade_of_grown grown⟩

/-- Files without links, in which all names are texts. -/
structure Plain (fs : FileSystem) : Prop where
  wellFormed : fs.WellFormed
  noLink : ∀ x ∈ fs.entries, ∀ t, x.2 ≠ .link t
  texts : ∀ x ∈ fs.entries, ∀ name ∈ x.1.getLast?, name.text?.isSome = true

theorem Plain.regular (plain : Plain fs) (apart : Apart (fs.goalOf p) (fs.goalOf q))
    (isLock : IsName (.ofString lockFile)) (found : Folder.discover p fs = .ok folders) :
    Regular folders p q lockFile fs := by
  have noLink : ∀ k t, (k, Entry.link t) ∉ fs.entries := fun k t member => plain.noLink _ member t rfl
  refine ⟨⟨plain.wellFormed, .of_notMem noLink p, .of_notMem noLink q, apart⟩, isLock, fun name there => ?_,
    found⟩
  exact plain.texts _ (mem_of_entry_eq_some (by simp) there) name (by simp)

/-- Two migrations and a lock file, and a backup with an older lock file, an older migration, and what else
is there. -/
def besideBackup (others : List (Location × Entry)) : FileSystem := twoMigrations (
  [([.ofString "migrations", .ofString "lock"], .file (.ofString "new")),
    ([.ofString "backup"], .directory),
    ([.ofString "backup", .ofString "lock"], .file (.ofString "old")),
    ([.ofString "backup", .ofString "000"], .directory),
    ([.ofString "backup", .ofString "000", .ofString "migration.sql"], .file (.ofString "SELECT 0;"))] ++
      others)

/-- A folder of the backup that is named like the second migration. -/
def secondTaken : List (Location × Entry) := [([.ofString "backup", .ofString "002"], .directory)]

theorem regular_besideBackup {others : List (Location × Entry)} (free : others = [] ∨ others = secondTaken) :
    Regular twoFolders (.ofString "migrations") (.ofString "backup") "lock" (besideBackup others) := by
  have plain : Plain (besideBackup others) := by
    rcases free with rfl | rfl <;>
      exact ⟨by decide +kernel, by simp [besideBackup, twoMigrations, secondTaken], by decide +kernel⟩
  have found : Folder.discover (.ofString "migrations") (besideBackup others) = .ok twoFolders := by
    rcases free with rfl | rfl <;> exact discover_twoMigrations (by rfl)
  have apart : Apart [.ofString "migrations"] [.ofString "backup"] := by unfold Apart; decide +kernel
  exact plain.regular apart (by decide) found

/-- Both folders are moved and the lock file is replaced, next to what is in the backup. Where the second
folder would take the place of another one, nothing is moved. -/
theorem history_conserved_besideBackup :
    (Regular twoFolders (.ofString "migrations") (.ofString "backup") "lock" (besideBackup []) ∧
      ∃ fs', make twoFolders (.ofString "migrations") (.ofString "backup") "lock" (besideBackup []) =
          .ok ⟨["001", "002"], true⟩ fs' ∧
        Conserved twoFolders (.ofString "migrations") (.ofString "backup") (.ofString "lock")
          (besideBackup []) ⟨["001", "002"], true⟩ fs') ∧
    Regular twoFolders (.ofString "migrations") (.ofString "backup") "lock" (besideBackup secondTaken) ∧
      ∃ fs',
        make twoFolders (.ofString "migrations") (.ofString "backup") "lock" (besideBackup secondTaken) =
          .error (.backupExists (.ofString "backup/002")) fs' ∧
        fs'.workingDirectory = (besideBackup secondTaken).workingDirectory ∧
        ∀ k, SameOrMade (.ofString "backup") k k (besideBackup secondTaken) fs' := by
  have regular := regular_besideBackup (Or.inl rfl)
  have regular' := regular_besideBackup (Or.inr rfl)
  obtain ⟨fs', done⟩ : ∃ fs', make twoFolders (.ofString "migrations") (.ofString "backup") "lock"
    (besideBackup []) = .ok ⟨["001", "002"], true⟩ fs' := ⟨_, by rfl⟩
  obtain ⟨fs'', failed⟩ : ∃ fs'', make twoFolders (.ofString "migrations") (.ofString "backup") "lock"
    (besideBackup secondTaken) = .error (.backupExists (.ofString "backup/002")) fs'' := ⟨_, by rfl⟩
  exact ⟨⟨regular, fs', done, (history_conserved regular).1 _ fs' done⟩,
    regular', fs'', failed, (history_conserved regular').2 _ fs'' failed⟩

/-- A migration without a file, next to a lock file or not, and an empty backup. -/
def oneMigration (locked : Bool) : FileSystem where
  entries := [
    ([.ofString "backup"], .directory),
    ([.ofString "migrations"], .directory),
    ([.ofString "migrations", .ofString "001"], .directory)] ++
      if locked then [([.ofString "migrations", .ofString "lock"], .file (.ofString "new"))] else []
  workingDirectory := []

/-- The folder of the migration, as it is found by way of a path. -/
def oneFolder (p : Path) : List Folder := [.inDirectory p (.ofString "001")]

theorem regular_oneMigration (locked : Bool)
    (apart : Apart ((oneMigration locked).goalOf p) ((oneMigration locked).goalOf q))
    (resolved : (oneMigration locked).resolve p = .ok ([.ofString "migrations"], .directory))
    (listed : ((oneMigration locked).namesIn [.ofString "migrations"]).filter
      (fun name => (oneMigration locked).isDirectory (p.join ⟨name⟩)) = [.ofString "001"]) :
    Regular (oneFolder p) p q "lock" (oneMigration locked) := by
  have plain : Plain (oneMigration locked) := by
    cases locked <;> exact ⟨by decide +kernel, by simp [oneMigration], by decide +kernel⟩
  exact plain.regular apart (by decide)
    (Folder.discover_of_listed resolved listed (List.pairwise_singleton _ _))

/-- The lock file is not found any more by a path that leads through a folder, and a folder is moved with the
directories that were made in it for the way to the backup. -/
theorem not_forall_history_conserved :
    (¬ ∀ (fs fs' : FileSystem) (p q : Path) (folders : List Folder) (lockFile : String) (b : Backup),
      Regular folders p q lockFile fs → make folders p q lockFile fs = .ok b fs' →
        (b.lockFileCopied = true ↔
          ∃ content, fs.entry? (fs.goalOf p ++ [.ofString lockFile]) = some (.file content))) ∧
    ¬ ∀ (fs fs' : FileSystem) (p q : Path) (folders : List Folder) (lockFile : String) (b : Backup),
      Regular folders p q lockFile fs → make folders p q lockFile fs = .ok b fs' → ∀ f ∈ folders, ∀ r,
        fs'.entry? (fs.goalOf q ++ .ofString f.name :: r) =
          fs.entry? (fs.goalOf p ++ .ofString f.name :: r) := by
  constructor
  · intro copied
    have regular : Regular (oneFolder (.ofString "migrations/001/..")) (.ofString "migrations/001/..")
        (.ofString "backup") "lock" (oneMigration true) :=
      regular_oneMigration true (by unfold Apart; decide +kernel) (by rfl) (by rfl)
    obtain ⟨fs', done⟩ : ∃ fs',
      make (oneFolder (.ofString "migrations/001/..")) (.ofString "migrations/001/..") (.ofString "backup")
        "lock" (oneMigration true) = .ok ⟨["001"], false⟩ fs' := ⟨_, by rfl⟩
    exact nomatch (copied _ fs' _ _ _ _ _ regular done).2 ⟨.ofString "new", by decide +kernel⟩
  · intro same
    have regular : Regular (oneFolder (.ofString "migrations")) (.ofString "migrations")
        (.ofString "migrations/001/x/../../../bk") "lock" (oneMigration false) :=
      regular_oneMigration false (by unfold Apart; decide +kernel) (by rfl) (by rfl)
    have done : make (oneFolder (.ofString "migrations")) (.ofString "migrations")
        (.ofString "migrations/001/x/../../../bk") "lock" (oneMigration false) =
      .ok ⟨["001"], false⟩ (leftBy (make (oneFolder (.ofString "migrations")) (.ofString "migrations")
        (.ofString "migrations/001/x/../../../bk") "lock" (oneMigration false))) := by rfl
    exact absurd (same _ _ _ _ _ _ _ regular done _ List.mem_cons_self [.ofString "x"]) (by decide +kernel)

end Backup

end SchemaHistory
