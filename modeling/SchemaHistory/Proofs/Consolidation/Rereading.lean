import SchemaHistory.Proofs.Migration.Moving
import SchemaHistory.Proofs.Report.Writing

/-!
What is read again after a history was moved and reports were written.

The history is read where it was moved to as it was read where it had been, and the new migration is found
again with the reports in its folder.
-/

namespace SchemaHistory

open FileSystem SchemaHistory.Path

variable {fs fs' : FileSystem} {p q : Path} {name : Bytes} {fileName : String}

/-! ### The history where it was moved to -/

namespace Backup.BackedUp

variable {names : List Bytes} (backedUp : BackedUp p q names fs fs')

include backedUp

theorem mem_names (member : name ∈ names) : name ∈ Folder.names fs' q (fs'.goalOf q) := by
  have folder := backedUp.folder name member
  rw [← goalOf_congr backedUp.workingDirectory] at folder
  obtain ⟨fits, short⟩ := backedUp.fitsBehind name member
  exact (Folder.mem_names_goalOf_iff backedUp.ready.unlinked' backedUp.ready.wellFormed
    backedUp.opens).2 ⟨backedUp.ready.wellFormed.isName folder, fits, short, folder⟩

theorem discover_eq (nonempty : names ≠ []) :
    Folder.discover q fs' = .ok ((Folder.names fs' q (fs'.goalOf q)).map (Folder.inDirectory q)) := by
  obtain ⟨name, member⟩ := List.exists_mem_of_ne_nil names nonempty
  have folder := backedUp.folder name member
  rw [← goalOf_congr backedUp.workingDirectory] at folder
  exact (Folder.discover_goalOf_iff backedUp.ready.unlinked').2 ⟨backedUp.fits, backedUp.opens,
    backedUp.ready.wellFormed.directory_of_entry (List.cons_ne_nil _ _) folder, rfl⟩

theorem sqlAt_eq (member : name ∈ names) (x : Bytes) :
    fs'.sqlAt (fs'.goalOf q ++ [name, x]) = fs.sqlAt (fs.goalOf p ++ [name, x]) := by
  rw [goalOf_congr backedUp.workingDirectory]
  exact sqlAt_congr fun c => backedUp.file name member x c

theorem sqlAt_of_other (other : name ∉ names) (x : Bytes) :
    fs'.sqlAt (fs'.goalOf q ++ [name, x]) = some "" := by
  rw [goalOf_congr backedUp.workingDirectory]
  exact sqlAt_of_no_file fun c => backedUp.noFile name other x c

theorem readable (isFile : IsName (.ofString fileName)) (noNul : (0 : UInt8) ∉ Bytes.ofString fileName)
    (short : (Bytes.ofString fileName).length ≤ nameLimit)
    (within : ∀ name c, fs.entry? (fs.goalOf p ++ [name, .ofString fileName]) = some (.file c) →
      ((q.join ⟨name⟩).join (.ofString fileName)).bytes.length < pathLimit) :
    Folder.Readable q (Folder.names fs' q (fs'.goalOf q)) fileName fs' := by
  refine Folder.readable_names backedUp.ready.wellFormed backedUp.ready.unlinked' backedUp.opens isFile noNul
    short fun name _ c there => ?_
  rw [goalOf_congr backedUp.workingDirectory] at there
  by_cases member : name ∈ names
  · exact within name c ((backedUp.file name member _ c).1 there)
  · exact absurd there (backedUp.noFile name member _ c)

/-- The history is the same where it was moved to. Other folders there have no statements. -/
theorem exists_sources_eq (wf : fs.WellFormed) (listed : names = Folder.names fs p (fs.goalOf p))
    (valid : ∀ name ∈ names, name.text?.isSome = true) (readable : Folder.Readable p names fileName fs)
    (readable' : Folder.Readable q (Folder.names fs' q (fs'.goalOf q)) fileName fs') {sources : List Source}
    (read : Folder.sources (names.map (Folder.inDirectory p)) fileName fs = .ok sources) :
    ∃ sources',
      Folder.sources ((Folder.names fs' q (fs'.goalOf q)).map (Folder.inDirectory q)) fileName fs' =
        .ok sources' ∧ History.ofSources sources' = History.ofSources sources := by
  obtain ⟨texts, rfl⟩ := (Folder.sources_eq_ok_iff readable).1 read
  refine ⟨_, (Folder.sources_eq_ok_iff readable').2 ⟨fun name _ => ?_, rfl⟩, ?_⟩
  · by_cases member : name ∈ names
    · rw [backedUp.sqlAt_eq member]
      exact texts name member
    · rw [backedUp.sqlAt_of_other member]
      rfl
  · have filtered : (Folder.names fs' q (fs'.goalOf q)).filter (· ∈ names) = names := by
      subst listed
      exact Folder.filter_names wf backedUp.ready.wellFormed valid fun name => backedUp.mem_names
    rw [← History.ofSources_filter fun name _ (other : decide (name ∈ names) = false) => ?_, filtered]
    · refine congrArg History.ofSources (List.map_congr_left fun name member => ?_)
      rw [Source.named, Source.named, backedUp.sqlAt_eq member]
    · rw [backedUp.sqlAt_of_other (of_decide_eq_false other)]
      rfl

end Backup.BackedUp

/-! ### The new migration before and after reports are written into it -/

namespace Folder

variable {m : NewMigration} {files : List Bytes} {n : Bytes}

/-- A new migration is found in a folder that reports can be written into. -/
theorem exists_place (wf : fs.WellFormed) (unlinked : fs.Unlinked p)
    (found : findNew p fileName fs = .ok m) : ∃ n, m.folder = inDirectory p n ∧ Report.Place p n fs := by
  obtain ⟨rest, discovered, -⟩ := findNew_eq_ok_iff.1 found
  obtain ⟨-, opens, -, listed⟩ := (discover_goalOf_iff unlinked).1 discovered
  obtain ⟨n, member, same⟩ := List.mem_map.1 (listed ▸ List.mem_cons_self)
  obtain ⟨isName, fits, short, there⟩ := (mem_names_goalOf_iff unlinked wf opens).1 member
  exact ⟨n, same.symm, isName, wf, unlinked.join isName,
    (opens_join_iff isName).2 ⟨opens, short, there⟩, fits⟩

/-- The name of its file can be looked up. -/
theorem noNul_and_short_of_findNew (place : Report.Place p n fs) (isFile : IsName (.ofString fileName))
    (folder : m.folder = inDirectory p n) (found : findNew p fileName fs = .ok m) :
    (0 : UInt8) ∉ Bytes.ofString fileName ∧ (Bytes.ofString fileName).length ≤ nameLimit := by
  obtain ⟨rest, -, read⟩ := findNew_eq_ok_iff.1 found
  rw [folder] at read
  obtain ⟨fits, short, -⟩ := (readText_join_eq_ok_iff place.opens isFile (place.unlinked.below _)).1 read
  exact ⟨fits.noNul_name isFile, short⟩

theorem names_of_changed (wf : fs.WellFormed) (unlinked : fs.Unlinked p) (opens : fs.Opens p)
    (changed : Report.Changed (fs.goalOf p ++ [n]) files fs fs') :
    names fs' p (fs'.goalOf p) = names fs p (fs.goalOf p) := by
  have goal := goalOf_congr changed.workingDirectory p
  have entry : ∀ name, fs'.entry? (fs.goalOf p ++ [name]) = fs.entry? (fs.goalOf p ++ [name]) := fun name =>
    changed.others _ fun x _ below => absurd below.length_le (by simp)
  have listed : fs'.namesIn (fs.goalOf p) = fs.namesIn (fs.goalOf p) :=
    changed.namesIn _ fun below => absurd below.length_le (by simp)
  rw [names, names, goal, listed]
  refine congrArg (List.mergeSort · nameNotAfter) (List.filter_congr fun name member => ?_)
  obtain ⟨e, there⟩ := mem_namesIn_iff.1 member
  have isName := wf.isName there
  rw [Bool.eq_iff_iff, isDirectory_join_iff opens isName (unlinked.below _),
    isDirectory_join_iff (changed.opens opens) isName ((changed.unlinked p unlinked).below _), goal, entry]

/-- The new migration is found again after reports were written into its folder. -/
theorem findNew_of_changed (place : Report.Place p n fs) (unlinked : fs.Unlinked p)
    (isFile : IsName (.ofString fileName)) (other : Bytes.ofString fileName ∉ files)
    (changed : Report.Changed (fs.goalOf (p.join ⟨n⟩)) files fs fs') (folder : m.folder = inDirectory p n)
    (found : findNew p fileName fs = .ok m) : findNew p fileName fs' = .ok m := by
  obtain ⟨rest, discovered, read⟩ := findNew_eq_ok_iff.1 found
  refine findNew_eq_ok_iff.2 ⟨rest, ?_, ?_⟩
  · obtain ⟨fits, opens, there, listed⟩ := (discover_goalOf_iff unlinked).1 discovered
    refine (discover_goalOf_iff (changed.unlinked p unlinked)).2 ⟨fits, changed.opens opens, ?_, ?_⟩
    · rw [goalOf_congr changed.workingDirectory]
      exact changed.directory _ there
    · rw [goalOf_join place.isName] at changed
      rw [listed, names_of_changed place.wellFormed unlinked opens changed]
  · rw [folder] at read ⊢
    have unlinked' := changed.unlinked _ place.unlinked
    obtain ⟨fits, short, c, there, valid⟩ :=
      (readText_join_eq_ok_iff place.opens isFile (place.unlinked.below _)).1 read
    refine (readText_join_eq_ok_iff (changed.opens place.opens) isFile (unlinked'.below _)).2
      ⟨fits, short, c, ?_, valid⟩
    rw [goalOf_congr changed.workingDirectory, changed.others, there]
    exact fun x member below => other ((concat_prefix_append_cons_iff.1 below) ▸ member)

theorem spared_of_changed (isName : IsName n) (unlinked : fs.Unlinked p) (unlinked' : fs.Unlinked q)
    (apart : Apart (fs.goalOf p) (fs.goalOf q))
    (changed : Report.Changed (fs.goalOf (p.join ⟨n⟩)) files fs fs') : Backup.Spared p q fs fs' := by
  refine ⟨changed.workingDirectory, changed.wellFormed, changed.unlinked p unlinked,
    changed.unlinked q unlinked', fun k _ => changed.directory k,
    fun r => changed.others _ fun x _ below => ?_⟩
  rw [goalOf_join isName, List.append_assoc] at below
  exact (apart.append _ r).1 below

end Folder

end SchemaHistory
