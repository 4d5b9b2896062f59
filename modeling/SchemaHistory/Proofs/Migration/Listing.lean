import SchemaHistory.Migration.Folder
import SchemaHistory.Proofs.Files.Unlinked
import SchemaHistory.Proofs.Text.Shown

/-!
What is read of a directory of migrations, by the entries that are there.

A path that is open leads to one location; its folders are the directories right below, in the order of
their names, and the text of a migration is the file below its folder.
-/

namespace SchemaHistory

open FileSystem SchemaHistory.Path

variable {fs fs' : FileSystem} {p : Path} {l : Location} {name file : Bytes} {content : Bytes}

/-! ### What is behind an open path -/

theorem isDirectory_iff : fs.isDirectory p = true ↔ ∃ l, fs.resolve p = .ok (l, .directory) := by
  rw [isDirectory]
  constructor
  · intro there
    split at there
    · exact ⟨_, ‹_›⟩
    · exact nomatch there
  · rintro ⟨l, resolved⟩
    rw [resolved]

theorem isFile_iff : fs.isFile p = true ↔ ∃ l content, fs.resolve p = .ok (l, .file content) := by
  rw [isFile]
  constructor
  · intro there
    split at there
    · exact ⟨_, _, ‹_›⟩
    · exact nomatch there
  · rintro ⟨l, content, resolved⟩
    rw [resolved]

theorem readText_eq_ok_iff {text : String} : fs.readText p = .ok text ↔
    ∃ l content, fs.resolve p = .ok (l, .file content) ∧ content.text? = some text := by
  rw [readText, except_bind_eq_ok_iff]
  constructor
  · rintro ⟨content, read, given⟩
    obtain ⟨l, resolved⟩ := readBytes_eq_ok_iff.1 read
    split at given
    · rename_i valid
      exact ⟨l, content, resolved, valid.trans (congrArg some (Except.ok.inj given))⟩
    · exact nomatch given
  · rintro ⟨l, content, resolved, valid⟩
    refine ⟨content, readBytes_eq_ok_iff.2 ⟨l, resolved⟩, ?_⟩
    rw [valid]
    rfl

theorem listDirectory_eq_ok_iff {names : List Bytes} : fs.listDirectory p = .ok names ↔
    ∃ l, fs.resolve p = .ok (l, .directory) ∧ names = fs.namesIn l := by
  rw [listDirectory, except_bind_eq_ok_iff]
  constructor
  · rintro ⟨⟨l, e⟩, resolved, listed⟩
    cases e with
    | directory => exact ⟨l, resolved, (Except.ok.inj listed).symm⟩
    | file | link => cases listed
  · rintro ⟨l, resolved, rfl⟩
    exact ⟨_, resolved, rfl⟩

section Join

variable (opens : fs.Opens p) (isName : IsName name)
  (noLink : ∀ t, fs.entry? (fs.goalOf p ++ [name]) ≠ some (.link t))

include opens isName noLink

theorem isDirectory_join_iff : fs.isDirectory (p.join ⟨name⟩) = true ↔
    (p.join ⟨name⟩).Fits ∧ name.length ≤ nameLimit ∧
      fs.entry? (fs.goalOf p ++ [name]) = some .directory := by
  rw [isDirectory_iff]
  constructor
  · rintro ⟨l, resolved⟩
    obtain ⟨fits, short, -, there⟩ := (resolve_join_eq_ok_iff opens isName noLink).1 resolved
    exact ⟨fits, short, there⟩
  · rintro ⟨fits, short, there⟩
    exact ⟨_, (resolve_join_eq_ok_iff opens isName noLink).2 ⟨fits, short, rfl, there⟩⟩

theorem isFile_join_iff : fs.isFile (p.join ⟨name⟩) = true ↔
    (p.join ⟨name⟩).Fits ∧ name.length ≤ nameLimit ∧
      ∃ content, fs.entry? (fs.goalOf p ++ [name]) = some (.file content) := by
  rw [isFile_iff]
  constructor
  · rintro ⟨l, content, resolved⟩
    obtain ⟨fits, short, -, there⟩ := (resolve_join_eq_ok_iff opens isName noLink).1 resolved
    exact ⟨fits, short, content, there⟩
  · rintro ⟨fits, short, content, there⟩
    exact ⟨_, content, (resolve_join_eq_ok_iff opens isName noLink).2 ⟨fits, short, rfl, there⟩⟩

theorem readText_join_eq_ok_iff {text : String} : fs.readText (p.join ⟨name⟩) = .ok text ↔
    (p.join ⟨name⟩).Fits ∧ name.length ≤ nameLimit ∧
      ∃ content, fs.entry? (fs.goalOf p ++ [name]) = some (.file content) ∧ content.text? = some text := by
  rw [readText_eq_ok_iff]
  constructor
  · rintro ⟨l, content, resolved, valid⟩
    obtain ⟨fits, short, -, there⟩ := (resolve_join_eq_ok_iff opens isName noLink).1 resolved
    exact ⟨fits, short, content, there, valid⟩
  · rintro ⟨fits, short, content, there, valid⟩
    exact ⟨_, content, (resolve_join_eq_ok_iff opens isName noLink).2 ⟨fits, short, rfl, there⟩, valid⟩

end Join

/-- A name behind a path without links is that of a file only if the path can be walked. -/
theorem FileSystem.Unlinked.isFile_join_iff (unlinked : fs.Unlinked p) (isName : IsName name) :
    fs.isFile (p.join ⟨name⟩) = true ↔ fs.Opens p ∧ (p.join ⟨name⟩).Fits ∧ name.length ≤ nameLimit ∧
      ∃ content, fs.entry? (fs.goalOf p ++ [name]) = some (.file content) := by
  simp only [isFile_iff, unlinked.resolve_join_iff isName]
  constructor
  · rintro ⟨_, content, opens, fits, short, rfl, there⟩
    exact ⟨opens, fits, short, content, there⟩
  · rintro ⟨opens, fits, short, content, there⟩
    exact ⟨_, content, opens, fits, short, rfl, there⟩

namespace Folder

/-! ### Names of folders -/

/-- The shown form of a name is a name. -/
theorem isName_shown (isName : IsName name) : IsName (.ofString name.shown) := by
  have other : ∀ b : Bytes, b.all (· < 128) = true → name ≠ b → Bytes.ofString name.shown ≠ b := by
    intro b small other same
    have small : ∀ x ∈ b, x < 128 := by simpa using small
    exact other ((Bytes.ofString_shown_of_small (same ▸ small)).symm.trans same)
  refine ⟨?_, other above (by decide) isName.notAbove, fun inside => ?_⟩
  · rw [isTrivial, Bool.or_eq_false_iff, List.isEmpty_eq_false_iff, beq_eq_false_iff_ne]
    refine ⟨other [] (by decide) isName.ne_nil, other here (by decide) ?_⟩
    rintro rfl
    exact nomatch isName.notTrivial
  · exact isName.whole (Bytes.mem_of_mem_ofString_shown (by decide) inside)

/-- Whether a folder with one name is listed before or with one with another name. -/
def nameNotAfter (a b : Bytes) : Bool := decide (Bytes.ofString a.shown ≤ Bytes.ofString b.shown)

theorem nameNotAfter_trans (a b c : Bytes) (first : nameNotAfter a b = true)
    (second : nameNotAfter b c = true) : nameNotAfter a c = true := by
  rw [nameNotAfter, decide_eq_true_eq] at *
  exact List.le_trans first second

theorem nameNotAfter_total (a b : Bytes) : (nameNotAfter a b || nameNotAfter b a) = true := by
  rw [nameNotAfter, nameNotAfter, Bool.or_eq_true, decide_eq_true_eq, decide_eq_true_eq]
  exact List.le_total _ _

theorem nameNotAfter_antisymm {a b : Bytes} (validA : a.text?.isSome = true)
    (validB : b.text?.isSome = true) (first : nameNotAfter a b = true)
    (second : nameNotAfter b a = true) : a = b := by
  rw [nameNotAfter, decide_eq_true_eq, Bytes.ofString_shown validA, Bytes.ofString_shown validB] at *
  exact List.le_antisymm first second

/-- The names of the folders in a directory, in order, as far as a path leads to them. -/
def names (fs : FileSystem) (directory : Path) (l : Location) : List Bytes :=
  ((fs.namesIn l).filter fun name => fs.isDirectory (directory.join ⟨name⟩)).mergeSort nameNotAfter

theorem mem_names_iff : name ∈ names fs p l ↔
    name ∈ fs.namesIn l ∧ fs.isDirectory (p.join ⟨name⟩) = true := by
  rw [names, List.mem_mergeSort, List.mem_filter]

theorem nodup_names (wf : fs.WellFormed) : (names fs p l).Nodup :=
  (List.mergeSort_perm _ _).nodup_iff.2 ((wf.nodup_namesIn l).filter _)

theorem pairwise_names (fs : FileSystem) (p : Path) (l : Location) :
    (names fs p l).Pairwise fun a b => nameNotAfter a b = true :=
  List.pairwise_mergeSort nameNotAfter_trans nameNotAfter_total _

/-- Names in order of which no two are the same are in ascending order. -/
theorem ascending_names (wf : fs.WellFormed) (valid : ∀ name ∈ names fs p l, name.text?.isSome = true) :
    (names fs p l).Pairwise fun x y => Bytes.ofString x.shown < .ofString y.shown := by
  have sorted := (pairwise_names fs p l).and (nodup_names wf)
  refine sorted.imp_of_mem fun {x y} here there ⟨inOrder, other⟩ => ?_
  rw [nameNotAfter, decide_eq_true_eq] at inOrder
  refine Std.lt_of_le_of_ne inOrder fun same => other ?_
  rwa [Bytes.ofString_shown (valid x here), Bytes.ofString_shown (valid y there)] at same

/-- Names that are listed among others are listed in the same order. -/
theorem filter_names {p' : Path} {l' : Location} (wf : fs.WellFormed) (wf' : fs'.WellFormed)
    (valid : ∀ name ∈ names fs p l, name.text?.isSome = true)
    (among : ∀ name ∈ names fs p l, name ∈ names fs' p' l') :
    (names fs' p' l').filter (· ∈ names fs p l) = names fs p l := by
  have sorted := (pairwise_names fs' p' l').filter (· ∈ names fs p l)
  refine List.Perm.eq_of_pairwise (fun a b here there => ?_) sorted (pairwise_names fs p l) ?_
  · exact nameNotAfter_antisymm (valid a (by simpa using (List.mem_filter.1 here).2)) (valid b there)
  · refine (List.perm_ext_iff_of_nodup ((nodup_names wf').filter _) (nodup_names wf)).2 fun name => ?_
    rw [List.mem_filter, decide_eq_true_eq]
    exact ⟨fun h => h.2, fun h => ⟨among name h, h⟩⟩

/-! ### Listing -/

theorem discover_eq_ok_iff {folders : List Folder} : discover p fs = .ok folders ↔
    ∃ l, fs.resolve p = .ok (l, .directory) ∧ folders = (names fs p l).map (inDirectory p) := by
  have listed : ∀ l, (((fs.namesIn l).map (inDirectory p)).filter fun f => fs.isDirectory f.path).mergeSort
      notAfter = (names fs p l).map (inDirectory p) := fun l => by
    have sorted := List.map_mergeSort (r := nameNotAfter) (s := notAfter) (f := inDirectory p)
      (l := (fs.namesIn l).filter fun name => fs.isDirectory (p.join ⟨name⟩)) fun _ _ _ _ => rfl
    rw [names, sorted, List.filter_map]
    rfl
  rw [discover]
  constructor
  · intro found
    split at found
    · rename_i there
      obtain ⟨l, resolved⟩ := isDirectory_iff.1 there
      refine ⟨l, resolved, ?_⟩
      rw [listDirectory_eq_ok_iff.2 ⟨l, resolved, rfl⟩] at found
      exact (Except.ok.inj found).symm.trans (listed l)
    · exact nomatch found
  · rintro ⟨l, resolved, rfl⟩
    rw [if_pos (isDirectory_iff.2 ⟨l, resolved⟩), listDirectory_eq_ok_iff.2 ⟨l, resolved, rfl⟩]
    exact congrArg Except.ok (listed l)

/-- Folders that are listed in order are found in that order. -/
theorem discover_of_listed {l : Location} {listed : List Bytes}
    (resolved : fs.resolve p = .ok (l, .directory))
    (same : (fs.namesIn l).filter (fun name => fs.isDirectory (p.join ⟨name⟩)) = listed)
    (sorted : listed.Pairwise fun a b => nameNotAfter a b = true) :
    discover p fs = .ok (listed.map (inDirectory p)) := by
  refine discover_eq_ok_iff.2 ⟨l, resolved, ?_⟩
  rw [names, same, List.mergeSort_of_pairwise sorted]

/-! ### Where no link is -/

section Unlinked

variable (unlinked : fs.Unlinked p)

include unlinked

theorem mem_names_goalOf_iff (wf : fs.WellFormed) (opens : fs.Opens p) : name ∈ names fs p (fs.goalOf p) ↔
    IsName name ∧ (p.join ⟨name⟩).Fits ∧ name.length ≤ nameLimit ∧
      fs.entry? (fs.goalOf p ++ [name]) = some .directory := by
  rw [mem_names_iff, mem_namesIn_iff]
  constructor
  · rintro ⟨⟨e, there⟩, isDirectory⟩
    have isName := wf.isName there
    exact ⟨isName, (isDirectory_join_iff opens isName (unlinked.below [name])).1 isDirectory⟩
  · rintro ⟨isName, fits, short, there⟩
    exact ⟨⟨_, there⟩, (isDirectory_join_iff opens isName (unlinked.below [name])).2 ⟨fits, short, there⟩⟩

theorem discover_goalOf_iff {folders : List Folder} : discover p fs = .ok folders ↔
    p.Fits ∧ fs.Opens p ∧ fs.entry? (fs.goalOf p) = some .directory ∧
      folders = (names fs p (fs.goalOf p)).map (inDirectory p) := by
  rw [discover_eq_ok_iff]
  constructor
  · rintro ⟨l, resolved, rfl⟩
    obtain ⟨fits, opens, rfl, there⟩ := (resolve_directory_iff unlinked.onWay).1 resolved
    exact ⟨fits, opens, there, rfl⟩
  · rintro ⟨fits, opens, there, rfl⟩
    exact ⟨_, (resolve_directory_iff unlinked.onWay).2 ⟨fits, opens, rfl, there⟩, rfl⟩

end Unlinked

end Folder

end SchemaHistory
