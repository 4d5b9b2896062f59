import SchemaHistory.Proofs.Files.Copied
import SchemaHistory.Proofs.Migration.Moving

/-!
What a backup leaves that fails.

The checks before the moves see what a destination leads to, and a move takes place by the entries that are
there. Where the two agree on every destination, every move takes place once the checks have passed: each
keeps the ways of both directories and the free places of the folders that are left. The lock file is copied
behind the moves, which put nothing at its place. So a backup that fails has moved nothing.
-/

namespace SchemaHistory

open FileSystem SchemaHistory.Path Action

variable {fs fs' : FileSystem} {p q : Path} {folders : List Folder} {lockFile : String} {e : Failure}

/-- Whether a location is that of a folder, or one in it. -/
def Folder.holds (f : Folder) (fs : FileSystem) (l : Location) : Bool :=
  match fs.slotOf f.path with
  | .ok slot => slot.location.isPrefixOf l
  | .error _ => false

/-- The files without some folders and all that is in them. -/
def FileSystem.without (fs : FileSystem) (folders : List Folder) : FileSystem :=
  { fs with entries := fs.entries.filter fun (l, _) => !folders.any (·.holds fs l) }

theorem FileSystem.of_entry?_without {k : Location} {there : Entry}
    (found : entry? (fs.without folders) k = some there) : fs.entry? k = some there ∧
      ∀ f ∈ folders, ∀ slot, fs.slotOf f.path = .ok slot → ¬ slot.location <+: k := by
  by_cases root : k = []
  · subst root
    exact ⟨found, fun f _ slot _ inside => by simp [Slot.location] at inside⟩
  · rw [entry?_of_ne_nil _ root, without, lookup_filter_key fun l => !folders.any (·.holds fs l)] at found
    split at found
    · rename_i outside
      rw [Bool.not_eq_true', List.any_eq_false] at outside
      refine ⟨(entry?_of_ne_nil _ root).trans found, fun f member slot here inside => ?_⟩
      have refused := outside f member
      rw [Folder.holds, here] at refused
      exact refused (List.isPrefixOf_iff_prefix.2 inside)
    · cases found

namespace Backup

/-! ### One step after the other -/

/-- The files in which the destinations are checked. -/
def prepared (q : Path) (fs : FileSystem) : FileSystem := leftBy (makeDirectories q fs)

/-- A backup that fails has made its directory as far as that goes, or a move or the copy has failed after
all checks have passed. -/
theorem make_eq_error (failed : make folders p q lockFile fs = .error e fs') : fs' = prepared q fs ∨
    (∀ f ∈ folders, (prepared q fs).pathExists (destination q f) = false) ∧
      (folders.forM (move q) (prepared q fs) = .error e fs' ∨
        ∃ u moved, folders.forM (move q) (prepared q fs) = .ok u moved ∧
          moved.isFile (p.join (.ofString lockFile)) = true ∧
            ∃ e', copy (p.join (.ofString lockFile)) (q.join (.ofString lockFile)) moved =
              .error e' fs') := by
  rw [make, bind_eq_error_iff] at failed
  rcases failed with refused | ⟨_, fs₁, directories, checks⟩
  · obtain ⟨_, refused⟩ := exists_of_adaptExcept_eq_error refused
    exact Or.inl (congrArg leftBy refused).symm
  have made : prepared q fs = fs₁ := congrArg leftBy (adaptExcept_eq_ok_iff.1 directories)
  rw [made]
  rcases bind_eq_error_iff.1 checks with refused | ⟨_, fs₂, passed, moves⟩
  · left
    have same := leftBy_forM_check folders q fs₁
    rwa [refused] at same
  obtain ⟨free, same⟩ := forM_check_eq_ok_iff.1 passed
  rw [same] at moves
  refine Or.inr ⟨free, ?_⟩
  rcases bind_eq_error_iff.1 moves with refused | ⟨u, moved, done, last⟩
  · exact Or.inl refused
  obtain ⟨_, _, ⟨⟩, copied⟩ := (bind_eq_error_iff.1 last).resolve_left fun refused => by cases refused
  dsimp only at copied
  split at copied
  · rename_i isFile
    rcases bind_eq_error_iff.1 copied with refused | ⟨_, _, _, ⟨⟩⟩
    exact Or.inr ⟨u, moved, done, isFile, exists_of_adaptExcept_eq_error refused⟩
  · cases copied

/-! ### Moves behind checks -/

/-- The ways of two directories, on which nothing is that is at some names in the first one or below, and
names that can be looked up in both. -/
structure Course (base : FileSystem) (p q : Path) (m b : Location) (names : List Bytes) : Prop where
  source : base.LeadsTo p m
  target : base.LeadsTo q b
  outside : ∀ name ∈ names, ∀ k e, base.entry? k = some e → ¬ m ++ [name] <+: k
  isName : ∀ name ∈ names, IsName name
  fits : ∀ name ∈ names, (p.join ⟨name⟩).Fits ∧ name.length ≤ nameLimit
  fitsThere : ∀ name ∈ names,
    (q.join (.ofString name.shown)).Fits ∧ (Bytes.ofString name.shown).length ≤ nameLimit

/-- What is still to be moved is there, its places are free, and the ways are as they were. -/
structure Pending (base : FileSystem) (m b : Location) (names : List Bytes) (fs : FileSystem) : Prop where
  wellFormed : fs.WellFormed
  workingDirectory : fs.workingDirectory = base.workingDirectory
  kept : ∀ k e, base.entry? k = some e → fs.entry? k = some e
  waiting : ∀ name ∈ names, fs.entry? (m ++ [name]) ≠ none
  free : ∀ name ∈ names, fs.entry? (b ++ [.ofString name.shown]) = none

theorem Pending.ways {base : FileSystem} {m b : Location} {names : List Bytes}
    (pending : Pending base m b names fs) : Ways base fs :=
  ⟨pending.workingDirectory, fun k e there _ => pending.kept k e there⟩

section Moves

variable {base : FileSystem} {m b : Location} {name : Bytes} {rest names all : List Bytes}

/-- Nothing new is in some files but below the places for folders with some names. -/
def NothingElse (b : Location) (names : List Bytes) (fs fs' : FileSystem) : Prop :=
  ∀ k e, (∀ name ∈ names, ¬ b ++ [.ofString name.shown] <+: k) → fs'.entry? k = some e →
    fs.entry? k = some e

/-- A folder that waits is moved, and nothing is in the way of the others. -/
theorem Pending.exists_move (course : Course base p q m b all) (member : name ∈ all)
    (other : name.shown ∉ rest.map Bytes.shown) (pending : Pending base m b (name :: rest) fs) :
    ∃ fs', move q (Folder.inDirectory p name) fs = .ok () fs' ∧ Pending base m b rest fs' ∧
      NothingElse b [name] fs fs' := by
  have isName := course.isName name member
  have isName' := Folder.isName_shown isName
  obtain ⟨fits, short⟩ := course.fits name member
  obtain ⟨fits', short'⟩ := course.fitsThere name member
  obtain ⟨waits, waiting⟩ := List.forall_mem_cons.1 pending.waiting
  obtain ⟨free, places⟩ := List.forall_mem_cons.1 pending.free
  have leads := course.source.mono pending.ways
  have leads' := course.target.mono pending.ways
  have slot : fs.slotOf (p.join ⟨name⟩) = .ok ⟨m, name, false⟩ :=
    (slotOf_join_iff isName).2 ⟨fits, short, leads, rfl⟩
  have slot' : fs.slotOf (q.join (.ofString name.shown)) = .ok ⟨b, .ofString name.shown, false⟩ :=
    (slotOf_join_iff isName').2 ⟨fits', short', leads', rfl⟩
  obtain ⟨e, there⟩ := Option.ne_none_iff_exists'.1 waits
  have inside : ¬ m ++ [name] <+: b := course.outside name member b _ course.target.home
  have above : ∀ k, fs.entry? k ≠ none → ¬ b ++ [.ofString name.shown] <+: k := fun k found => by
    obtain ⟨e, there⟩ := Option.ne_none_iff_exists'.1 found
    exact pending.wellFormed.not_prefix_of_eq_none free there
  have outside : ¬ b ++ [.ofString name.shown] <+: m := above m (by rw [leads.home]; simp)
  obtain ⟨fs', renamed, moved⟩ : ∃ fs', fs.rename (p.join ⟨name⟩) (q.join (.ofString name.shown)) = .ok fs' ∧
      Moved (m ++ [name]) (b ++ [.ofString name.shown]) fs fs' :=
    ⟨_, rename_of_free slot slot' (Slot.isNamed_of_isName isName) (Slot.isNamed_of_isName isName') rfl rfl
      there inside outside free,
      moved_relocate (apart_concat inside outside fun same => waits (same ▸ free)) (by simp) (by simp)⟩
  refine ⟨fs', adaptExcept_eq_ok_iff.2 (change_eq_ok_iff.2 renamed), ⟨pending.wellFormed.rename renamed,
    moved.workingDirectory.trans pending.workingDirectory, fun k e found => ?kept, fun x later => ?waiting,
    fun x later => ?free⟩, fun k e outside there => ?nothing⟩
  case kept =>
    have found' := pending.kept k e found
    rw [moved.others k (above k (by rw [found']; simp)), if_neg (course.outside name member k e found),
      found']
  case waiting =>
    rw [moved.others _ (above _ (waiting x later)), if_neg]
    · exact waiting x later
    · intro same
      rw [concat_prefix_append_cons_iff] at same
      exact other (same ▸ List.mem_map_of_mem later)
  case free =>
    rw [moved.others]
    · split
      · rfl
      · exact places x later
    · intro same
      rw [concat_prefix_append_cons_iff] at same
      exact other (Bytes.ofString_injective same ▸ List.mem_map_of_mem later)
  case nothing =>
    rw [moved.others k (outside name List.mem_cons_self)] at there
    split at there
    · cases there
    · exact there

/-- All folders that wait are moved. -/
theorem Pending.exists_forM_move (course : Course base p q m b all) (among : names ⊆ all)
    (nodup : (names.map Bytes.shown).Nodup) (pending : Pending base m b names fs) :
    ∃ fs', (names.map (Folder.inDirectory p)).forM (move q) fs = .ok () fs' ∧ Pending base m b [] fs' ∧
      NothingElse b names fs fs' := by
  induction names generalizing fs with
  | nil => exact ⟨fs, rfl, pending, fun _ _ _ there => there⟩
  | cons name rest ih =>
    rw [List.map_cons, List.nodup_cons] at nodup
    rw [List.cons_subset] at among
    obtain ⟨fs₁, first, pending₁, before₁⟩ := pending.exists_move course among.1 nodup.1
    obtain ⟨fs₂, later, pending₂, before₂⟩ := ih among.2 nodup.2 pending₁
    refine ⟨fs₂, forM_cons_eq_ok_iff.2 ⟨(), fs₁, first, later⟩, pending₂, fun k e outside there => ?_⟩
    rw [List.forall_mem_cons] at outside
    exact before₁ k e (List.forall_mem_singleton.2 outside.1) (before₂ k e outside.2 there)

end Moves

/-! ### What the checks do not see -/

/-- A file can be copied to a name behind a path: both are short enough, and nothing but a file has the name
there. -/
structure Receives (q : Path) (name : String) (fs : FileSystem) : Prop where
  short : (q.join (.ofString name)).bytes.length < pathLimit ∧ (Bytes.ofString name).length ≤ nameLimit
  place : ∀ slot, fs.slotOf (q.join (.ofString name)) = .ok slot →
    ∀ e, fs.entry? slot.location = some e → ∃ content, e = .file content

/-- Each destination is short enough and no link, no two of them are the same, and the ways of both
directories lead through none of the folders. The lock file is a name that no folder has, and it can be
copied if it is there. -/
structure Foreseen (folders : List Folder) (p q : Path) (lockFile : String) (fs : FileSystem) : Prop where
  short : ∀ f ∈ folders, (destination q f).bytes.length < pathLimit ∧
    (Bytes.ofString f.name).length ≤ nameLimit
  noLink : ∀ f ∈ folders, ∀ slot, fs.slotOf (destination q f) = .ok slot →
    ∀ t, fs.entry? slot.location ≠ some (.link t)
  nodup : (folders.map (·.name)).Nodup
  outside : ∀ way ∈ [p, q], ∀ l, fs.LeadsTo way l → (fs.without folders).LeadsTo way l
  lockName : IsName (.ofString lockFile) ∧ ∀ f ∈ folders, f.name ≠ lockFile
  lockFile : ∀ slot e, fs.slotOf (p.join (.ofString lockFile)) = .ok slot →
    fs.entry? slot.location = some e → e ≠ .directory → Receives q lockFile fs

/-- A move that is refused leaves everything as it is. -/
theorem eq_of_move_eq_error {f : Folder} (failed : move q f fs = .error e fs') : fs' = fs := by
  obtain ⟨_, refused⟩ := exists_of_adaptExcept_eq_error failed
  exact (change_eq_error_iff.1 refused).2

theorem exists_slot_of_move {f : Folder} {u : Unit} (done : move q f fs = .ok u fs') :
    ∃ slot, fs.slotOf (destination q f) = .ok slot := by
  obtain ⟨_, target, _, _, found, _⟩ := rename_eq_ok (change_eq_ok_iff.1 (adaptExcept_eq_ok_iff.1 done))
  exact ⟨target, found⟩

/-- Folders that were found in a directory, when nothing is at their destinations as far as the
checks see. -/
structure Passed (p q : Path) (m : Location) (names : List Bytes) (fs : FileSystem) : Prop where
  wellFormed : fs.WellFormed
  leads : fs.LeadsTo p m
  isName : ∀ name ∈ names, IsName name
  fits : ∀ name ∈ names, (p.join ⟨name⟩).Fits ∧ name.length ≤ nameLimit
  there : ∀ name ∈ names, fs.entry? (m ++ [name]) ≠ none
  free : ∀ name ∈ names, fs.pathExists (q.join (.ofString name.shown)) = false

/-- Folders are moved to the directory that a path leads to, and both paths lead where they led. -/
structure Arrived (p q : Path) (m b : Location) (names : List Bytes) (fs moved : FileSystem) : Prop where
  noNul : (0 : UInt8) ∉ q.bytes
  leads : fs.LeadsTo q b
  free : ∀ name ∈ names, fs.entry? (b ++ [.ofString name.shown]) = none
  source : moved.LeadsTo p m
  target : moved.LeadsTo q b
  before : NothingElse b names fs moved

/-- What is behind the moves at a name that no folder has was there before. -/
theorem Arrived.entry?_of_moved {m b g : Location} {names : List Bytes} {moved : FileSystem} {x : String}
    {there : Entry} (arrived : Arrived p q m b names fs moved) (wf : fs.WellFormed)
    (home : fs.entry? g = some .directory) (other : ∀ name ∈ names, name.shown ≠ x)
    (found : moved.entry? (g ++ [.ofString x]) = some there) :
    fs.entry? (g ++ [.ofString x]) = some there := by
  refine arrived.before _ there (fun name member inside => ?_) found
  rcases List.prefix_concat_iff.1 inside with here | above
  · exact other name member (Bytes.ofString_injective (List.singleton_inj.1 (List.append_inj' here rfl).2))
  · exact wf.not_prefix_of_eq_none (arrived.free name member) home above

section Foreseen

variable {m b : Location} {names : List Bytes} (passed : Passed p q m names fs)
  (foreseen : Foreseen (names.map (Folder.inDirectory p)) p q lockFile fs)

include passed foreseen

theorem Passed.fitsThere {name : Bytes} (noNul : (0 : UInt8) ∉ q.bytes) (member : name ∈ names) :
    (q.join (.ofString name.shown)).Fits ∧ (Bytes.ofString name.shown).length ≤ nameLimit := by
  have isName := passed.isName name member
  have noNul' : (0 : UInt8) ∉ Bytes.ofString name.shown := fun inside =>
    (passed.fits name member).1.noNul_name isName (Bytes.mem_of_mem_ofString_shown (by decide) inside)
  obtain ⟨short, short'⟩ := foreseen.short _ (List.mem_map_of_mem member)
  exact ⟨fits_join (Folder.isName_shown isName) noNul noNul' short, short'⟩

/-- Where the backup can be reached, all folders wait for their moves. -/
theorem Passed.pending (noNul : (0 : UInt8) ∉ q.bytes) (leads : fs.LeadsTo q b) :
    Course (fs.without (names.map (Folder.inDirectory p))) p q m b names ∧
      Pending (fs.without (names.map (Folder.inDirectory p))) m b names fs := by
  have fitsThere := fun name (member : name ∈ names) => passed.fitsThere foreseen noNul member
  have slot : ∀ name ∈ names, fs.slotOf (p.join ⟨name⟩) = .ok ⟨m, name, false⟩ := fun name member => by
    obtain ⟨fits, short⟩ := passed.fits name member
    exact (slotOf_join_iff (passed.isName name member)).2 ⟨fits, short, passed.leads, rfl⟩
  refine ⟨⟨foreseen.outside p (by simp) m passed.leads, foreseen.outside q (by simp) b leads,
    fun name member k e found => ?outside, passed.isName, passed.fits, fitsThere⟩,
    passed.wellFormed, rfl, fun k e found => (of_entry?_without found).1, passed.there,
    fun name member => ?free⟩
  case outside =>
    exact (of_entry?_without found).2 _ (List.mem_map_of_mem member) _ (slot name member)
  case free =>
    have isName := Folder.isName_shown (passed.isName name member)
    obtain ⟨fits, short⟩ := fitsThere name member
    have place : fs.slotOf (q.join (.ofString name.shown)) = .ok ⟨b, .ofString name.shown, false⟩ :=
      (slotOf_join_iff isName).2 ⟨fits, short, leads, rfl⟩
    cases found : fs.entry? (b ++ [.ofString name.shown]) with
    | none => rfl
    | some e =>
      have noLink := foreseen.noLink _ (List.mem_map_of_mem member) _ place
      have resolved := leads.resolve_join isName fits short found fun t link => noLink t (link ▸ found)
      have free := passed.free name member
      rw [pathExists, Path.ofString, resolved] at free
      cases free

/-- Where one folder can be moved, all are. -/
theorem Passed.exists_forM_move {name : Bytes} {u : Unit} (member : name ∈ names)
    (first : move q (Folder.inDirectory p name) fs = .ok u fs') :
    ∃ b moved, (names.map (Folder.inDirectory p)).forM (move q) fs = .ok () moved ∧
      Arrived p q m b names fs moved := by
  obtain ⟨slot, found⟩ := exists_slot_of_move first
  have isName := Folder.isName_shown (passed.isName name member)
  obtain ⟨fits, -, leads, -⟩ := (slotOf_join_iff isName).1 found
  have noNul := fits.noNul_path isName
  obtain ⟨course, pending⟩ := passed.pending foreseen noNul leads
  have nodup := foreseen.nodup
  rw [List.map_map] at nodup
  obtain ⟨moved, done, pending', before⟩ := pending.exists_forM_move course (List.Subset.refl _) nodup
  exact ⟨_, moved, done, noNul, leads, pending.free, course.source.mono pending'.ways,
    course.target.mono pending'.ways, before⟩

/-- Of moves that fail, already the first one does. -/
theorem Passed.eq_of_forM_move_eq_error
    (failed : (names.map (Folder.inDirectory p)).forM (move q) fs = .error e fs') : fs' = fs := by
  cases names with
  | nil => exact nomatch failed
  | cons name rest =>
    rcases bind_eq_error_iff.1 failed with first | ⟨_, _, first, -⟩
    · exact eq_of_move_eq_error first
    · obtain ⟨_, _, done, -⟩ := passed.exists_forM_move foreseen List.mem_cons_self first
      exact nomatch failed.symm.trans done

theorem Passed.exists_arrived {moved : FileSystem} {u : Unit} (nonempty : names ≠ [])
    (moves : (names.map (Folder.inDirectory p)).forM (move q) fs = .ok u moved) :
    ∃ b, Arrived p q m b names fs moved := by
  obtain ⟨name, rest, rfl⟩ := List.exists_cons_of_ne_nil nonempty
  obtain ⟨_, _, first, -⟩ := forM_cons_eq_ok_iff.1 moves
  obtain ⟨b, _, done, arrived⟩ := passed.exists_forM_move foreseen List.mem_cons_self first
  cases moves.symm.trans done
  exact ⟨b, arrived⟩

/-- A file that is there behind the moves under the name of the lock file can be copied. -/
theorem Passed.exists_copy {moved : FileSystem} {u : Unit} (nonempty : names ≠ [])
    (moves : (names.map (Folder.inDirectory p)).forM (move q) fs = .ok u moved)
    (isFile : moved.isFile (p.join (.ofString lockFile)) = true) :
    ∃ fs', copy (p.join (.ofString lockFile)) (q.join (.ofString lockFile)) moved = .ok () fs' := by
  obtain ⟨isLock, otherNames⟩ := foreseen.lockName
  obtain ⟨b, arrived⟩ := passed.exists_arrived foreseen nonempty moves
  have other : ∀ name ∈ names, name.shown ≠ lockFile := fun name member =>
    otherNames _ (List.mem_map_of_mem member)
  obtain ⟨l, content, resolved⟩ := isFile_iff.1 isFile
  obtain ⟨e, there, noDirectory⟩ := arrived.source.exists_entry_of_resolve_join isLock resolved
  have fits := (locate_eq_ok_iff.1 (resolve_eq_ok_iff.1 resolved).1).1
  have short := arrived.source.short_of_resolve isLock resolved
  have receives := foreseen.lockFile ⟨m, _, false⟩ e
    ((slotOf_join_iff isLock).2 ⟨fits, short, passed.leads, rfl⟩)
    (arrived.entry?_of_moved passed.wellFormed passed.leads.home other there) noDirectory
  have fits' := fits_join isLock arrived.noNul (fits.noNul_name isLock) receives.short.1
  have slot : fs.slotOf (q.join (.ofString lockFile)) = .ok ⟨b, _, false⟩ :=
    (slotOf_join_iff isLock).2 ⟨fits', receives.short.2, arrived.leads, rfl⟩
  exact exists_copy_join arrived.target isLock fits' receives.short.2 (fun e there => receives.place _ slot e
    (arrived.entry?_of_moved passed.wellFormed arrived.leads.home other there)) resolved

end Foreseen

/-! ### Folders that stay -/

/-- A folder is at its path as before, with the same entries in it. -/
def Intact (f : Folder) (fs fs' : FileSystem) : Prop :=
  ∃ l, fs.resolve f.path = .ok (l, .directory) ∧ fs'.resolve f.path = .ok (l, .directory) ∧
    ∀ r, fs'.entry? (l ++ r) = fs.entry? (l ++ r)

theorem Intact.isDirectory {f : Folder} (intact : Intact f fs fs') : fs'.isDirectory f.path = true := by
  obtain ⟨l, -, resolved, -⟩ := intact
  exact isDirectory_iff.2 ⟨l, resolved⟩

theorem grown_prepared (q : Path) (fs : FileSystem) : Grown fs (prepared q fs) :=
  keeps_makeDirectories (R := Grown) (fun _ _ _ => .of_makeDirectory) q fs

theorem passed_of_names {m : Location} (wf : fs.WellFormed) (resolved : fs.resolve p = .ok (m, .directory))
    (grown : Grown fs fs') (free : ∀ name ∈ Folder.names fs p m,
      fs'.pathExists (q.join (.ofString name.shown)) = false) : Passed p q m (Folder.names fs p m) fs' := by
  obtain ⟨-, leads⟩ := resolve_eq_directory_iff.1 resolved
  have leads' := leads.mono grown.ways
  have listed : ∀ name ∈ Folder.names fs p m, IsName name ∧
      ((p.join ⟨name⟩).Fits ∧ name.length ≤ nameLimit) ∧ fs'.entry? (m ++ [name]) ≠ none := by
    intro name member
    obtain ⟨inside, isDirectory⟩ := Folder.mem_names_iff.1 member
    obtain ⟨e, there⟩ := mem_namesIn_iff.1 inside
    obtain ⟨l, resolved⟩ := isDirectory_iff.1 isDirectory
    have isName := wf.isName there
    refine ⟨isName, ⟨(resolve_eq_directory_iff.1 resolved).1, leads.short_of_resolve isName resolved⟩, ?_⟩
    rw [grown.entry?_of_some there]
    simp
  exact ⟨grown.wellFormed wf, leads', fun name member => (listed name member).1,
    fun name member => (listed name member).2.1, fun name member => (listed name member).2.2, free⟩

/-- A backup that fails leaves all folders as they are, if its directory is made outside of them and the
checks, should they pass, see all that matters. -/
theorem intact_of_make_eq_error (wf : fs.WellFormed) (found : Folder.discover p fs = .ok folders)
    (untouched : ∀ f ∈ folders, ∀ l, fs.resolve f.path = .ok (l, .directory) →
      ∀ r, entry? (prepared q fs) (l ++ r) = fs.entry? (l ++ r))
    (foreseen : (∀ f ∈ folders, (prepared q fs).pathExists (destination q f) = false) →
      Foreseen folders p q lockFile (prepared q fs))
    (failed : make folders p q lockFile fs = .error e fs') : ∀ f ∈ folders, Intact f fs fs' := by
  have grown := grown_prepared q fs
  obtain ⟨m, resolved, rfl⟩ := Folder.discover_eq_ok_iff.1 found
  have course := make_eq_error failed
  generalize prepared q fs = made at *
  intro f member
  obtain ⟨name, listed, rfl⟩ := List.mem_map.1 member
  have unmoved : fs' = made := by
    rcases course with same | ⟨free, refused | ⟨_, moved, moves, isFile, _, refused⟩⟩
    · exact same
    all_goals
      have passed := passed_of_names wf resolved grown fun name member =>
        free (Folder.inDirectory p name) (List.mem_map_of_mem member)
    · exact passed.eq_of_forM_move_eq_error (foreseen free) refused
    · obtain ⟨_, copied⟩ := passed.exists_copy (foreseen free) (List.ne_nil_of_mem listed) moves isFile
      exact nomatch refused.symm.trans copied
  obtain ⟨l, there⟩ := isDirectory_iff.1 (Folder.mem_names_iff.1 listed).2
  rw [unmoved]
  exact ⟨l, there, grown.kept.resolve _ _ _ there, untouched _ member l there⟩

/-- Two migrations, and what is there besides. -/
def twoMigrations (others : List (Location × Entry)) : FileSystem where
  entries := [
    ([.ofString "migrations"], .directory),
    ([.ofString "migrations", .ofString "001"], .directory),
    ([.ofString "migrations", .ofString "001", .ofString "migration.sql"], .file (.ofString "SELECT 1;")),
    ([.ofString "migrations", .ofString "002"], .directory),
    ([.ofString "migrations", .ofString "002", .ofString "migration.sql"], .file (.ofString "SELECT 2;"))] ++
      others
  workingDirectory := []

/-- The folders of the two migrations. -/
def twoFolders : List Folder :=
  [.inDirectory (.ofString "migrations") (.ofString "001"),
    .inDirectory (.ofString "migrations") (.ofString "002")]

theorem discover_twoMigrations {others : List (Location × Entry)}
    (listed : ((twoMigrations others).namesIn [.ofString "migrations"]).filter
      (fun name => (twoMigrations others).isDirectory ((Path.ofString "migrations").join ⟨name⟩)) =
        [.ofString "001", .ofString "002"]) :
    Folder.discover (.ofString "migrations") (twoMigrations others) = .ok twoFolders := by
  have sorted : [Bytes.ofString "001", .ofString "002"].Pairwise
    fun a b => Folder.nameNotAfter a b = true := by decide +kernel
  exact Folder.discover_of_listed rfl listed sorted

/-- Two migrations and a lock file, and a backup with a folder that is named like the second one. -/
def taken : FileSystem := twoMigrations
  [([.ofString "migrations", .ofString "lock"], .file (.ofString "locked")),
    ([.ofString "backup"], .directory),
    ([.ofString "backup", .ofString "002"], .directory)]

theorem slotOf_taken :
    taken.slotOf (.ofString "backup/001") = .ok ⟨[.ofString "backup"], .ofString "001", false⟩ ∧
    taken.slotOf (.ofString "backup/002") = .ok ⟨[.ofString "backup"], .ofString "002", false⟩ ∧
    taken.slotOf (.ofString "backup/lock") = .ok ⟨[.ofString "backup"], .ofString "lock", false⟩ := by
  decide +kernel

theorem foreseen_taken : Foreseen twoFolders (.ofString "migrations") (.ofString "backup") "lock" taken := by
  obtain ⟨first, second, last⟩ := slotOf_taken
  refine ⟨by decide +kernel, fun f member slot found => ?noLink, by decide +kernel,
    fun way among l leads => ?outside, ⟨by decide, by decide +kernel⟩, fun _ _ _ _ _ =>
      ⟨by decide +kernel, fun slot found e there => ?place⟩⟩
  case noLink =>
    have free : entry? taken [.ofString "backup", .ofString "001"] = none := by decide +kernel
    have directory : entry? taken [.ofString "backup", .ofString "002"] = some .directory := by
      decide +kernel
    intro t link
    rcases List.mem_pair.1 member with rfl | rfl
    · obtain rfl := Except.ok.inj (first.symm.trans found)
      cases free.symm.trans link
    · obtain rfl := Except.ok.inj (second.symm.trans found)
      cases directory.symm.trans link
  case outside =>
    have leads' : taken.LeadsTo way way.segments :=
      leads_iff_walk.2 (by rcases List.mem_pair.1 among with rfl | rfl <;> decide +kernel)
    rw [leads.unique leads']
    exact leads_iff_walk.2 (by rcases List.mem_pair.1 among with rfl | rfl <;> decide +kernel)
  case place =>
    have free : entry? taken [.ofString "backup", .ofString "lock"] = none := by decide +kernel
    obtain rfl := Except.ok.inj (last.symm.trans found)
    cases free.symm.trans there

/-- The first folder could be moved, and nothing is moved because of the second one. -/
theorem intact_of_make_eq_error_taken :
    Foreseen twoFolders (.ofString "migrations") (.ofString "backup") "lock" taken ∧
      (∃ moved, move (.ofString "backup") (.inDirectory (.ofString "migrations") (.ofString "001")) taken =
        .ok () moved) ∧
      make twoFolders (.ofString "migrations") (.ofString "backup") "lock" taken =
        .error (.backupExists (.ofString "backup/002")) taken ∧
      ∀ f ∈ twoFolders, Intact f taken taken := by
  have unchanged : prepared (.ofString "backup") taken = taken := by decide +kernel
  have failed : make twoFolders (.ofString "migrations") (.ofString "backup") "lock" taken =
    .error (.backupExists (.ofString "backup/002")) taken := by rfl
  refine ⟨foreseen_taken, ⟨_, eq_ok_of_succeeded (by decide +kernel)⟩, failed, ?_⟩
  exact intact_of_make_eq_error (by decide +kernel) (discover_twoMigrations (by rfl))
    (fun f _ l _ r => by rw [unchanged]) (fun _ => by rw [unchanged]; exact foreseen_taken) failed

/-- A link that leads nowhere is no entry to the checks, but no directory takes its place. -/
theorem not_forall_intact : ¬ ∀ (fs fs' : FileSystem) (p q : Path) (folders : List Folder)
    (lockFile : String) (e : Failure), fs.WellFormed → Folder.discover p fs = .ok folders →
      make folders p q lockFile fs = .error e fs' → ∀ f ∈ folders, Intact f fs fs' := by
  intro intact
  let fs := twoMigrations
    [([.ofString "backup"], .directory),
      ([.ofString "backup", .ofString "002"], .link (.ofString "missing"))]
  obtain ⟨e, failed⟩ := exists_eq_error
    (r := make twoFolders (.ofString "migrations") (.ofString "backup") "lock" fs) (by decide +kernel)
  have first := intact fs _ _ _ _ _ e (by decide +kernel)
    (discover_twoMigrations (by rfl)) failed _ List.mem_cons_self
  exact absurd first.isDirectory (by decide +kernel)

end Backup

end SchemaHistory
