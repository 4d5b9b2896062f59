import SchemaHistory.Proofs.Files.Relisted
import SchemaHistory.Proofs.Migration.Reading

/-!
The folders of a directory, whatever the order in which it lists its names.

Names that are texts are never shown alike, so that sorting leaves no choice: the folders, and all that is
read of them, are the same for every order. They are the directories that the directory holds, and what
links in it lead to, as far as the system looks up their paths.
-/

namespace SchemaHistory

open FileSystem SchemaHistory.Path

variable {fs fs' : FileSystem} {directory : Path} {l : Location} {name : Bytes} {n : Nat}

/-! ### Directories in a directory -/

/-- A name is that of a directory, or of a link that leads to one along `n` links, itself included. -/
inductive FileSystem.NamesDirectory (fs : FileSystem) (l : Location) (name : Bytes) : Nat → Prop where
  | directory (there : fs.entry? (l ++ [name]) = some .directory) : NamesDirectory fs l name 0
  | link {n : Nat} {target : Path} {g : Location} (there : fs.entry? (l ++ [name]) = some (.link target))
      (leads : fs.Leads n (if target.isAbsolute then [] else l) target.segments g) :
      NamesDirectory fs l name (n + 1)

theorem FileSystem.NamesDirectory.exists_entry (named : fs.NamesDirectory l name n) :
    ∃ e, fs.entry? (l ++ [name]) = some e := by
  cases named with
  | directory there => exact ⟨_, there⟩
  | link there => exact ⟨_, there⟩

/-- A name leads to a directory along the links that it takes to get there, or more. -/
theorem FileSystem.exists_leads_name_iff (isName : IsName name) : (∃ g, fs.Leads n l [name] g) ↔
    name.length ≤ nameLimit ∧ ∃ m ≤ n, fs.NamesDirectory l name m := by
  constructor
  · rintro ⟨g, leads⟩
    cases leads with
    | pass trivial => exact nomatch isName.notTrivial.symm.trans trivial
    | up => exact absurd rfl isName.notAbove
    | down _ _ short directory => exact ⟨short, 0, Nat.zero_le _, .directory directory⟩
    | along _ _ short link next =>
      rw [List.append_nil] at next
      exact ⟨short, _, Nat.le_refl _, .link link next⟩
  · rintro ⟨short, m, enough, names⟩
    cases names with
    | directory there => exact ⟨_, .down isName.notTrivial isName.notAbove short there (.here there)⟩
    | @link _ target _ there leads =>
      obtain ⟨n, rfl⟩ := Nat.exists_eq_add_of_le' enough
      have next := leads.weaken (Nat.le_add_left _ n)
      rw [← List.append_nil target.segments] at next
      exact ⟨_, .along isName.notTrivial isName.notAbove short there next⟩

namespace Folder

/-- The name of a folder in a directory that a path leads to: that of a directory, or of a link to one. The
path of the folder and its name are not too long for the system, and not too many links are followed on the
way to the directory and on from the name. -/
structure IsFolder (fs : FileSystem) (directory : Path) (l : Location) (name : Bytes) : Prop where
  fits : (directory.join ⟨name⟩).Fits
  short : name.length ≤ nameLimit
  links : ∃ m n, m + n ≤ linkLimit ∧ fs.Leads m (fs.startOf directory) directory.segments l ∧
    fs.NamesDirectory l name n

theorem isDirectory_join_iff_of_leadsTo (leads : fs.LeadsTo directory l) (isName : IsName name) :
    fs.isDirectory (directory.join ⟨name⟩) = true ↔ IsFolder fs directory l name := by
  simp only [isDirectory_iff, resolve_eq_directory_iff, leads.leadsTo_join_iff isName]
  constructor
  · rintro ⟨g, fits, m, n, within, way, further⟩
    obtain ⟨short, k, enough, names⟩ := (exists_leads_name_iff isName).1 ⟨g, further⟩
    exact ⟨fits, short, m, k, (Nat.add_le_add_left enough m).trans within, way, names⟩
  · rintro ⟨fits, short, m, n, within, way, names⟩
    obtain ⟨g, further⟩ := (exists_leads_name_iff isName).2 ⟨short, n, Nat.le_refl n, names⟩
    exact ⟨g, fits, m, n, within, way, further⟩

theorem mem_names_iff_isFolder (wf : fs.WellFormed) (leads : fs.LeadsTo directory l) :
    name ∈ names fs directory l ↔ IsFolder fs directory l name := by
  rw [mem_names_iff, mem_namesIn_iff]
  constructor
  · rintro ⟨⟨e, there⟩, isDirectory⟩
    exact (isDirectory_join_iff_of_leadsTo leads (wf.isName there)).1 isDirectory
  · intro isFolder
    obtain ⟨m, n, -, -, named⟩ := isFolder.links
    obtain ⟨e, there⟩ := named.exists_entry
    exact ⟨⟨e, there⟩, (isDirectory_join_iff_of_leadsTo leads (wf.isName there)).2 isFolder⟩

/-- All names in the directory that a path leads to are texts. -/
def AllTexts (fs : FileSystem) (directory : Path) : Prop :=
  ∀ names, fs.listDirectory directory = .ok names → ∀ name ∈ names, name.text?.isSome = true

theorem allTexts_of_resolve (resolved : fs.resolve directory = .ok (l, .directory))
    (valid : ∀ name ∈ fs.namesIn l, name.text?.isSome = true) : AllTexts fs directory := by
  intro names listed
  obtain ⟨l', resolved', rfl⟩ := listDirectory_eq_ok_iff.1 listed
  obtain ⟨rfl, -⟩ := Prod.mk.inj (Except.ok.inj (resolved.symm.trans resolved'))
  exact valid

theorem AllTexts.of_mem_names (texts : AllTexts fs directory)
    (resolved : fs.resolve directory = .ok (l, .directory)) (member : name ∈ names fs directory l) :
    name.text?.isSome = true :=
  texts _ (listDirectory_eq_ok_iff.2 ⟨l, resolved, rfl⟩) name (mem_names_iff.1 member).1

/-- The folders that are found in a directory are all that it holds, in ascending order. -/
theorem exists_discover_eq_ok (wf : fs.WellFormed) (texts : AllTexts fs directory) (fits : directory.Fits)
    (leads : fs.LeadsTo directory l) : ∃ folders, discover directory fs = .ok folders ∧
      (folders.Pairwise fun f g => Bytes.ofString f.name < .ofString g.name) ∧
      ∀ f, f ∈ folders ↔
        f.path = directory.join (.ofString f.name) ∧ IsFolder fs directory l (.ofString f.name) := by
  have resolved := resolve_eq_directory_iff.2 ⟨fits, leads⟩
  have valid : ∀ name ∈ names fs directory l, name.text?.isSome = true :=
    fun name => texts.of_mem_names resolved
  refine ⟨_, discover_eq_ok_iff.2 ⟨l, resolved, rfl⟩, List.pairwise_map.2 (ascending_names wf valid),
    fun f => ?_⟩
  rw [← mem_names_iff_isFolder wf leads, List.mem_map]
  constructor
  · rintro ⟨name, member, rfl⟩
    have shown : Bytes.ofString (inDirectory directory name).name = name :=
      Bytes.ofString_shown (valid name member)
    rw [Path.ofString, shown]
    exact ⟨rfl, member⟩
  · rintro ⟨path, member⟩
    refine ⟨_, member, ?_⟩
    rw [inDirectory, Bytes.shown, Bytes.text?_ofString, Option.getD_some, ← Path.ofString, ← path]

/-! ### Reading in another order -/

/-- Sorting leaves no choice, since no two names are shown alike. -/
theorem names_relisted (relisted : Relisted fs fs') (wf : fs.WellFormed)
    (valid : ∀ name ∈ names fs directory l, name.text?.isSome = true) :
    names fs' directory l = names fs directory l := by
  have same := relisted.sameEntries wf
  have perm : (names fs' directory l).Perm (names fs directory l) := by
    refine (List.mergeSort_perm _ _).trans (.trans ?_ (List.mergeSort_perm _ _).symm)
    simp only [isDirectory_congr same]
    exact (relisted.perm_namesIn l).filter _
  refine perm.eq_of_pairwise (fun a b here there => ?_) (pairwise_names fs' directory l)
    (pairwise_names fs directory l)
  exact nameNotAfter_antisymm (valid a (perm.mem_iff.1 here)) (valid b there)

theorem discover_relisted (relisted : Relisted fs fs') (wf : fs.WellFormed) (texts : AllTexts fs directory) :
    discover directory fs' = discover directory fs := by
  have same := relisted.sameEntries wf
  by_cases there : fs.isDirectory directory = true
  · obtain ⟨l, resolved⟩ := isDirectory_iff.1 there
    have resolved' : fs'.resolve directory = .ok (l, .directory) := (resolve_congr same _).trans resolved
    rw [discover_eq_ok_iff.2 ⟨l, resolved, rfl⟩, discover_eq_ok_iff.2 ⟨l, resolved', rfl⟩,
      names_relisted relisted wf fun name => texts.of_mem_names resolved]
  · rw [discover, discover, isDirectory_congr same, if_neg there, if_neg there]

section Same

variable (same : SameEntries fs fs')

include same

theorem sources_congr (folders : List Folder) (fileName : String) :
    sources folders fileName fs' = sources folders fileName fs := by
  simp only [sources, source, isFile_congr same, readText_congr same]

theorem findNew_congr (discovered : discover directory fs' = discover directory fs) (fileName : String) :
    findNew directory fileName fs' = findNew directory fileName fs := by
  simp only [findNew, discovered, isFile_congr same, readText_congr same]

end Same

/-- The history of the migrations in a directory. -/
def historyIn (directory : Path) (fileName : String) (fs : FileSystem) : Except Failure History := do
  let folders ← discover directory fs
  return .ofSources (← sources folders fileName fs)

/-- The folders that are found in a directory, and what is read of them, do not depend on the order in which
it lists its names, and this may be any. They are all the directories in it and links to directories whose
paths can be looked up, in ascending order of their names. -/
theorem found_in_every_order (wf : fs.WellFormed) (texts : AllTexts fs directory) :
    (∀ names order, fs.listDirectory directory = .ok names → order.Perm names →
      ∃ fs', Relisted fs fs' ∧ fs'.listDirectory directory = .ok order) ∧
    (∀ fs', Relisted fs fs' →
      discover directory fs' = discover directory fs ∧
      (∀ folders fileName, sources folders fileName fs' = sources folders fileName fs) ∧
      ∀ fileName, historyIn directory fileName fs' = historyIn directory fileName fs ∧
        findNew directory fileName fs' = findNew directory fileName fs) ∧
    ∀ l, directory.Fits → fs.LeadsTo directory l → ∃ folders, discover directory fs = .ok folders ∧
      (folders.Pairwise fun f g => Bytes.ofString f.name < .ofString g.name) ∧
      ∀ f, f ∈ folders ↔
        f.path = directory.join (.ofString f.name) ∧ IsFolder fs directory l (.ofString f.name) := by
  refine ⟨fun names order listed perm => ?everyOrder, fun fs' relisted => ?same,
    fun l => exists_discover_eq_ok wf texts⟩
  case everyOrder =>
    obtain ⟨l, resolved, rfl⟩ := listDirectory_eq_ok_iff.1 listed
    obtain ⟨fs', relisted, rfl⟩ := exists_relisted perm
    have resolved' := (resolve_congr (relisted.sameEntries wf) directory).trans resolved
    exact ⟨fs', relisted, listDirectory_eq_ok_iff.2 ⟨l, resolved', rfl⟩⟩
  case same =>
    have same := relisted.sameEntries wf
    have discovered := discover_relisted relisted wf texts
    have read := sources_congr same
    refine ⟨discovered, read, fun fileName => ⟨?_, findNew_congr same discovered fileName⟩⟩
    simp only [historyIn, discovered, read]

/-- The name of a link with so many others before it, the first of which leads to the migrations. -/
def linkName : Nat → Bytes
  | 0 => .ofString "migrations"
  | n + 1 => List.replicate (n + 1) 0x6C

/-- A migration and a link to it, next to a lock file, and so many links of which each leads to the one
before. -/
def linkedMigration (links : Nat) : FileSystem where
  entries := [
    ([.ofString "migrations"], .directory),
    ([.ofString "migrations", .ofString "001"], .directory),
    ([.ofString "migrations", .ofString "002"], .link (.ofString "001")),
    ([.ofString "migrations", .ofString "lock"], .file [])] ++
      (List.range links).map fun n => ([linkName (n + 1)], .link ⟨linkName n⟩)
  workingDirectory := []

/-- The migration is found behind 39 links, and the link to it too, which is the fortieth. -/
theorem found_in_every_order_linked :
    (linkedMigration 39).WellFormed ∧ AllTexts (linkedMigration 39) ⟨linkName 39⟩ ∧
      (∃ fs', Relisted (linkedMigration 39) fs' ∧
        fs'.listDirectory ⟨linkName 39⟩ = .ok [.ofString "lock", .ofString "002", .ofString "001"]) ∧
      (∀ fs', Relisted (linkedMigration 39) fs' → discover ⟨linkName 39⟩ fs' =
        .ok [inDirectory ⟨linkName 39⟩ (.ofString "001"), inDirectory ⟨linkName 39⟩ (.ofString "002")]) ∧
      IsFolder (linkedMigration 39) ⟨linkName 39⟩ [.ofString "migrations"] (.ofString "002") := by
  have wf : (linkedMigration 39).WellFormed := by decide +kernel
  have resolved : (linkedMigration 39).resolve ⟨linkName 39⟩ =
      .ok ([.ofString "migrations"], .directory) := by decide +kernel
  have texts : AllTexts (linkedMigration 39) ⟨linkName 39⟩ :=
    allTexts_of_resolve resolved (by decide +kernel)
  have listed : ((linkedMigration 39).namesIn [.ofString "migrations"]).filter (fun name =>
      (linkedMigration 39).isDirectory (join ⟨linkName 39⟩ ⟨name⟩)) =
        [.ofString "001", .ofString "002"] := by decide +kernel
  have discovered := discover_of_listed resolved listed (by decide +kernel)
  obtain ⟨everyOrder, same, found⟩ := found_in_every_order wf texts
  obtain ⟨fits, leads⟩ := resolve_eq_directory_iff.1 resolved
  obtain ⟨folders, discovered', -, exactly⟩ := found _ fits leads
  obtain rfl := Except.ok.inj (discovered.symm.trans discovered')
  refine ⟨wf, texts, everyOrder [.ofString "001", .ofString "002", .ofString "lock"] _ (by decide +kernel)
    (by decide +kernel), fun fs' relisted => (same fs' relisted).1.trans discovered, ?_⟩
  exact ((exactly ⟨"002", join ⟨linkName 39⟩ (.ofString "002")⟩).1 (by decide +kernel)).2

/-- Of every directory with names that are texts, those directories and links to directories are found whose
paths have a property. -/
def AllFound (lookedUp : Path → Prop) : Prop :=
  ∀ (fs : FileSystem) (directory : Path) (l : Location), fs.WellFormed → AllTexts fs directory →
    directory.Fits → fs.LeadsTo directory l → ∃ folders, discover directory fs = .ok folders ∧
      ∀ f, f ∈ folders ↔ f.path = directory.join (.ofString f.name) ∧ lookedUp f.path ∧
        ∃ n, fs.NamesDirectory l (.ofString f.name) n

theorem not_allFound {lookedUp : Path → Prop} (wf : fs.WellFormed) (texts : AllTexts fs directory)
    (resolved : fs.resolve directory = .ok (l, .directory)) (named : fs.NamesDirectory l name n)
    (property : lookedUp (directory.join ⟨name⟩))
    (passedOver : fs.isDirectory (directory.join ⟨name⟩) = false) : ¬ AllFound lookedUp := fun all => by
  obtain ⟨fits, leads⟩ := resolve_eq_directory_iff.1 resolved
  obtain ⟨folders, discovered, exactly⟩ := all fs directory l wf texts fits leads
  have shown : Bytes.ofString (inDirectory directory name).name = name :=
    Bytes.ofString_shown (texts _ (listDirectory_eq_ok_iff.2 ⟨l, resolved, rfl⟩) name
      (mem_namesIn_iff.2 named.exists_entry))
  have member := (exactly (inDirectory directory name)).2
  rw [Path.ofString, shown] at member
  obtain ⟨l', -, rfl⟩ := discover_eq_ok_iff.1 discovered
  obtain ⟨name', found, same⟩ := List.mem_map.1 (member ⟨rfl, property, n, named⟩)
  have path : directory.join ⟨name'⟩ = directory.join ⟨name⟩ := congrArg Folder.path same
  have there := (mem_names_iff.1 found).2
  rw [path, passedOver] at there
  exact Bool.false_ne_true there

/-- A path of 4095 bytes, behind which no name can be looked up. -/
def longPath : Path := ⟨.ofString "migrations" ++ List.replicate 4085 slash⟩

/-- A directory is passed over whose path is too long, and a link to one whose path follows too
many links. -/
theorem not_forall_directories_found : ¬ AllFound (fun _ => True) ∧ ¬ AllFound Fits := by
  constructor
  · have resolved : (linkedMigration 0).resolve longPath = .ok ([.ofString "migrations"], .directory) := by
      decide +kernel
    have there : entry? (linkedMigration 0) [.ofString "migrations", .ofString "001"] = some .directory := by
      decide +kernel
    exact not_allFound (by decide +kernel) (allTexts_of_resolve resolved (by decide +kernel)) resolved
      (.directory there) trivial (by decide +kernel)
  · have resolved : (linkedMigration 40).resolve ⟨linkName 40⟩ =
      .ok ([.ofString "migrations"], .directory) := by decide +kernel
    have link : entry? (linkedMigration 40) [.ofString "migrations", .ofString "002"] =
      some (.link (.ofString "001")) := by decide +kernel
    have leads : (linkedMigration 40).Leads 0 [.ofString "migrations"] (segments (.ofString "001"))
      [.ofString "migrations", .ofString "001"] := leads_iff_walk.2 ⟨by decide +kernel, by decide +kernel⟩
    have fits : (join ⟨linkName 40⟩ (.ofString "002")).Fits := ⟨by decide, by decide, by decide⟩
    exact not_allFound (by decide +kernel) (allTexts_of_resolve resolved (by decide +kernel)) resolved
      (.link link leads) fits (by decide +kernel)

end Folder

end SchemaHistory
