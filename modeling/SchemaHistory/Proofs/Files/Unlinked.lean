import SchemaHistory.Proofs.Files.WellFormed

/-!
Changes away from links.

A path is free of links if there is none on its way and none at its goal or below. For such a path, the
changes that are made by way of it are described by locations: a directory is made where nothing was, an
entry is moved with all that is below it, and a file is written.
-/

namespace SchemaHistory

namespace FileSystem

open SchemaHistory.Path FileSystem.Action

variable {fs fs' fs'' : FileSystem} {l k : Location} {p q : Path} {name content : Bytes} {e : Entry}

/-- There is no link on the way of a path, and none where it leads or below. -/
def Unlinked (fs : FileSystem) (p : Path) : Prop :=
  ∀ l, l ∈ fs.wayOf p ∨ fs.goalOf p <+: l → ∀ t, fs.entry? l ≠ some (.link t)

namespace Unlinked

theorem of_notMem (none : ∀ k t, (k, Entry.link t) ∉ fs.entries) (p : Path) : fs.Unlinked p := by
  intro k _ t link
  by_cases root : k = []
  · rw [root] at link
    exact nomatch link
  · exact none k t (mem_of_entry_eq_some root link)

theorem onWay (unlinked : fs.Unlinked p) : ∀ k ∈ fs.wayOf p, ∀ t, fs.entry? k ≠ some (.link t) :=
  fun k member => unlinked k (Or.inl member)

theorem below (unlinked : fs.Unlinked p) (r : Location) :
    ∀ t, fs.entry? (fs.goalOf p ++ r) ≠ some (.link t) :=
  unlinked _ (Or.inr (List.prefix_append _ r))

/-- A path stays free of links if no link is put anywhere. -/
theorem congr (unlinked : fs.Unlinked p) (same : fs'.workingDirectory = fs.workingDirectory)
    (noLink : ∀ k t, (k ∈ fs.wayOf p ∨ fs.goalOf p <+: k) → fs'.entry? k = some (.link t) →
      ∃ k', fs.entry? k' = some (.link t) ∧ (k' ∈ fs.wayOf p ∨ fs.goalOf p <+: k')) :
    fs'.Unlinked p := by
  intro k inside t link
  rw [wayOf_congr same, goalOf_congr same] at inside
  obtain ⟨k', link', inside'⟩ := noLink k t inside link
  exact unlinked k' inside' t link'

/-- What is at a name behind a path without links is one as well. -/
theorem join (unlinked : fs.Unlinked p) (isName : IsName name) : fs.Unlinked (p.join ⟨name⟩) := by
  intro k inside
  rw [wayOf_join isName, goalOf_join isName, List.mem_append, List.mem_singleton] at inside
  rcases inside with (before | rfl) | below
  · exact unlinked k (Or.inl before)
  · exact unlinked.below _
  · exact unlinked k (Or.inr ((List.prefix_append _ _).trans below))

/-- A path stays free of links if something else than a link is put somewhere. -/
theorem put (unlinked : fs.Unlinked p) (below : l ≠ []) (noLink : ∀ t, e ≠ .link t) :
    Unlinked (fs.put l e) p := by
  refine unlinked.congr (workingDirectory_put ..) fun k t inside link => ⟨k, ?_, inside⟩
  rw [entry?_put below] at link
  split at link
  · exact absurd (Option.some.inj link) (noLink t)
  · exact link

/-- What a name behind a path is looked up at is known if there is no link. -/
theorem locate_join_iff (unlinked : fs.Unlinked p) (isName : IsName name) :
    fs.locate true (p.join ⟨name⟩) = .ok l ↔ fs.Opens p ∧ (p.join ⟨name⟩).Fits ∧ name.length ≤ nameLimit ∧
      l = fs.goalOf p ++ [name] := by
  constructor
  · intro located
    have opens := opens_of_locate_join unlinked.onWay isName located
    exact ⟨opens, (locate_join_eq_ok_iff opens isName (unlinked.below [name])).1 located⟩
  · rintro ⟨opens, found⟩
    exact (locate_join_eq_ok_iff opens isName (unlinked.below [name])).2 found

theorem resolve_join_iff (unlinked : fs.Unlinked p) (isName : IsName name) :
    fs.resolve (p.join ⟨name⟩) = .ok (l, e) ↔ fs.Opens p ∧ (p.join ⟨name⟩).Fits ∧ name.length ≤ nameLimit ∧
      l = fs.goalOf p ++ [name] ∧ fs.entry? l = some e := by
  rw [resolve_eq_ok_iff, unlinked.locate_join_iff isName]
  simp only [and_assoc]

end Unlinked

/-! ### Directories that are made -/

/-- Directories are made where nothing was, and nothing else changes. -/
structure Grown (fs fs' : FileSystem) : Prop where
  workingDirectory : fs'.workingDirectory = fs.workingDirectory
  entry : ∀ k, fs'.entry? k = fs.entry? k ∨ fs.entry? k = none ∧ fs'.entry? k = some .directory
  wellFormed : fs.WellFormed → fs'.WellFormed

namespace Grown

instance : IsPreorder FileSystem Grown where
  refl _ := ⟨rfl, fun _ => Or.inl rfl, id⟩
  trans fs fs' fs'' first second := by
    refine ⟨second.workingDirectory.trans first.workingDirectory, fun k => ?_,
      fun wf => second.wellFormed (first.wellFormed wf)⟩
    rcases first.entry k with same | ⟨nothing, made⟩
    · rw [← same]
      exact second.entry k
    · rcases second.entry k with same | ⟨nothing', -⟩
      · exact Or.inr ⟨nothing, same.trans made⟩
      · exact nomatch made.symm.trans nothing'

theorem of_makeDirectory (made : fs.makeDirectory p = .ok fs') : Grown fs fs' := by
  have wellFormed : fs.WellFormed → fs'.WellFormed := fun wf => wf.makeDirectory made
  obtain ⟨slot, -, -, free, rfl⟩ := makeDirectory_eq_ok made
  refine ⟨workingDirectory_put .., fun k => ?_, wellFormed⟩
  rw [entry?_put (by simp [Slot.location])]
  split
  · rename_i here
    exact Or.inr ⟨here ▸ free, rfl⟩
  · exact Or.inl rfl

theorem of_makeDirectories {u : Unit} (made : makeDirectories p fs = .ok u fs') : Grown fs fs' := by
  have kept := keeps_makeDirectories (R := Grown) (fun _ _ _ => of_makeDirectory) p fs
  rwa [made] at kept

theorem entry?_of_some (grown : Grown fs fs') (there : fs.entry? k = some e) : fs'.entry? k = some e := by
  rcases grown.entry k with same | ⟨nothing, -⟩
  · rw [same, there]
  · exact nomatch nothing.symm.trans there

theorem ways (grown : Grown fs fs') : Ways fs fs' :=
  ⟨grown.workingDirectory, fun _ _ there _ => grown.entry?_of_some there⟩

theorem kept (grown : Grown fs fs') : Kept fs fs' :=
  kept_of_entries grown.workingDirectory fun _ _ => grown.entry?_of_some

theorem of_entry? (grown : Grown fs fs') (there : fs'.entry? k = some e) (other : e ≠ .directory) :
    fs.entry? k = some e := by
  rcases grown.entry k with same | ⟨-, made⟩
  · rw [← same, there]
  · exact absurd (Option.some.inj (there.symm.trans made)) other

theorem unlinked (grown : Grown fs fs') (unlinked : fs.Unlinked p) : fs'.Unlinked p :=
  unlinked.congr grown.workingDirectory fun k _ inside link =>
    ⟨k, grown.of_entry? link (by simp), inside⟩

end Grown

/-! ### Entries that are moved -/

/-- A name in one directory that is given to an entry with a name in another one. -/
theorem moved_of_rename {x y : Bytes} (noLink : ∀ k ∈ fs.wayOf p, ∀ t, fs.entry? k ≠ some (.link t))
    (noLink' : ∀ k ∈ fs.wayOf q, ∀ t, fs.entry? k ≠ some (.link t)) (isName : IsName x)
    (isName' : IsName y) (other : fs.goalOf p ++ [x] ≠ fs.goalOf q ++ [y])
    (renamed : fs.rename (p.join ⟨x⟩) (q.join ⟨y⟩) = .ok fs') :
    (q.join ⟨y⟩).Fits ∧ y.length ≤ nameLimit ∧ fs.Opens q ∧ fs.entry? (fs.goalOf q) = some .directory ∧
      Moved (fs.goalOf p ++ [x]) (fs.goalOf q ++ [y]) fs fs' ∧
      ∃ e, fs.entry? (fs.goalOf p ++ [x]) = some e ∧ fs.MayReplace e (fs.goalOf q ++ [y]) := by
  obtain ⟨source, target, e, sourceFound, targetFound, -, -, there, -, inside, above, made⟩ :=
    rename_eq_ok renamed
  obtain ⟨-, -, -, -, rfl⟩ := (slotOf_join_eq_ok_iff noLink isName).1 sourceFound
  obtain ⟨fits, opens, home, short, rfl⟩ := (slotOf_join_eq_ok_iff noLink' isName').1 targetFound
  rcases made with ⟨same, -⟩ | ⟨-, mayReplace, rfl⟩
  · exact absurd same other
  · exact ⟨fits, short, opens, home, moved_relocate (apart_concat inside above other) (by simp) (by simp),
      e, there, mayReplace⟩

theorem below_ne_nil {r : Location} (nonempty : r ≠ []) (there : fs.entry? (l ++ r) = some e) :
    fs.below l ≠ [] := by
  have member := mem_of_entry_eq_some (by simp [nonempty]) there
  refine List.ne_nil_of_mem (a := (r, e)) (List.mem_filterMap.2 ⟨_, member, ?_⟩)
  simp [nonempty]

namespace Moved

variable {source target : Location}

/-- Directories stay directories, but for those that are moved away. -/
theorem directory (moved : Moved source target fs fs') (wf : fs.WellFormed)
    (there : fs.entry? source = some e) (mayReplace : fs.MayReplace e target)
    (directory : fs.entry? k = some .directory) (outside : ¬ source <+: k) :
    fs'.entry? k = some .directory := by
  by_cases inside : target <+: k
  · obtain ⟨r, rfl⟩ := inside
    by_cases here : r = []
    · rw [here, List.append_nil] at directory
      rw [moved.arrived, here, List.append_nil, there, (mayReplace _ directory).1.1 rfl]
    · have above := wf.directory_of_entry here directory
      exact absurd ((mayReplace _ above).2 rfl) (below_ne_nil here directory)
  · rw [moved.others k inside, if_neg outside, directory]

theorem unlinked (moved : Moved source target fs fs')
    (noLink : ∀ r t, fs.entry? (source ++ r) ≠ some (.link t)) (unlinked : fs.Unlinked p) :
    fs'.Unlinked p := by
  refine unlinked.congr moved.workingDirectory fun k t inside link => ⟨k, ?_, inside⟩
  by_cases arrived : target <+: k
  · obtain ⟨r, rfl⟩ := arrived
    rw [moved.arrived] at link
    exact absurd link (noLink r t)
  · rw [moved.others k arrived] at link
    split at link
    · exact nomatch link
    · exact link

end Moved

/-! ### Files that are written -/

/-- A file has a content, and nothing else changes. -/
structure Written (l : Location) (content : Bytes) (fs fs' : FileSystem) : Prop where
  workingDirectory : fs'.workingDirectory = fs.workingDirectory
  before : fs.entry? l ≠ some .directory
  after : fs'.entry? l = some (.file content)
  others : ∀ k, k ≠ l → fs'.entry? k = fs.entry? k
  names : ∀ k, (∀ name, l ≠ k ++ [name]) → fs'.namesIn k = fs.namesIn k
  wellFormed : fs.WellFormed → fs'.WellFormed

theorem written_put (isName : IsName name) (home : fs.entry? l = some .directory)
    (before : fs.entry? (l ++ [name]) ≠ some .directory) :
    Written (l ++ [name]) content fs (fs.put (l ++ [name]) (.file content)) := by
  refine ⟨workingDirectory_put .., before, ?_, fun k other => ?_, fun k other => namesIn_put _ other,
    fun wf => wf.put isName home fun directory => absurd directory before⟩
  · rw [entry?_put (by simp), if_pos rfl]
  · rw [entry?_put (by simp), if_neg other]

theorem written_of_writeBytes (opens : fs.Opens p) (home : fs.entry? (fs.goalOf p) = some .directory)
    (isName : IsName name) (noLink : ∀ t, fs.entry? (fs.goalOf p ++ [name]) ≠ some (.link t))
    (written : fs.writeBytes (p.join ⟨name⟩) content = .ok fs') :
    Written (fs.goalOf p ++ [name]) content fs fs' := by
  obtain ⟨-, l, located, before, rfl⟩ := writeBytes_eq_ok written
  obtain ⟨-, -, rfl⟩ := (locate_join_eq_ok_iff opens isName noLink).1 located
  exact written_put isName home before

namespace Written

variable {content' : Bytes}

theorem again (first : Written l content fs fs') (second : Written l content' fs' fs'') :
    Written l content' fs fs'' where
  workingDirectory := second.workingDirectory.trans first.workingDirectory
  before := first.before
  after := second.after
  others k other := (second.others k other).trans (first.others k other)
  names k other := (second.names k other).trans (first.names k other)
  wellFormed wf := second.wellFormed (first.wellFormed wf)

theorem directory (written : Written l content fs fs') (directory : fs.entry? k = some .directory) :
    fs'.entry? k = some .directory := by
  rw [written.others k fun same => written.before (same ▸ directory), directory]

theorem unlinked (written : Written l content fs fs') (unlinked : fs.Unlinked p) : fs'.Unlinked p := by
  refine unlinked.congr written.workingDirectory fun k t inside link => ⟨k, ?_, inside⟩
  by_cases here : k = l
  · rw [here, written.after] at link
    exact nomatch Option.some.inj link
  · rwa [written.others k here] at link

theorem opens (written : Written l content fs fs') (opens : fs.Opens p) : fs'.Opens p :=
  opens.congr written.workingDirectory fun _ _ => written.directory

end Written

/-- A file that is copied has some content at its new place. -/
theorem written_of_copy {source : Path} {u : Unit} (opens : fs.Opens p)
    (home : fs.entry? (fs.goalOf p) = some .directory) (isName : IsName name)
    (noLink : ∀ t, fs.entry? (fs.goalOf p ++ [name]) ≠ some (.link t))
    (copied : copy source (p.join ⟨name⟩) fs = .ok u fs') :
    ∃ content, Written (fs.goalOf p ++ [name]) content fs fs' := by
  simp only [copy, bind_eq_ok_iff, ask_eq_ok_iff, change_eq_ok_iff] at copied
  obtain ⟨-, fs, ⟨-, rfl⟩, -, fs₁, emptied, content, fs₁, ⟨-, rfl⟩, filled⟩ := copied
  have first := written_of_writeBytes opens home isName noLink emptied
  have same := goalOf_congr first.workingDirectory p
  have noLink₁ : ∀ t, fs₁.entry? (fs₁.goalOf p ++ [name]) ≠ some (.link t) := fun t link => by
    rw [same, first.after] at link
    exact nomatch Option.some.inj link
  have second := written_of_writeBytes (first.opens opens) (same ▸ first.directory home) isName
    noLink₁ filled
  rw [same] at second
  exact ⟨content, first.again second⟩

end FileSystem

end SchemaHistory
