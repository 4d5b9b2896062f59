import SchemaHistory.Proofs.Files.WellFormed

/-!
Files that are listed in another order.

The order of the entries is that in which a directory lists its names, and nothing else: whatever it is,
every path leads to the same entry, or is refused for the same reason. And a directory may list its names in
every order.
-/

namespace SchemaHistory

/-! ### Lists in another order -/

section Perm

variable {α β : Type}

theorem lookup_eq_some_iff_of_nodup [BEq α] [LawfulBEq α] {l : List (α × β)} {a : α} {b : β}
    (nodup : (l.map (·.1)).Nodup) : l.lookup a = some b ↔ (a, b) ∈ l := by
  refine ⟨mem_of_lookup_eq_some, fun member => ?_⟩
  obtain ⟨b', found⟩ := Option.isSome_iff_exists.1 (isSome_lookup_iff.2 (List.mem_map_of_mem member))
  have same := List.inj_on_of_nodup_map nodup (mem_of_lookup_eq_some found) member rfl
  rw [found, (Prod.mk.inj same).2]

theorem lookup_perm [BEq α] [LawfulBEq α] {l l' : List (α × β)} (perm : l'.Perm l)
    (nodup : (l.map (·.1)).Nodup) (a : α) : l'.lookup a = l.lookup a := by
  have nodup' : (l'.map (·.1)).Nodup := (perm.map _).nodup_iff.2 nodup
  refine Option.ext fun b => ?_
  rw [lookup_eq_some_iff_of_nodup nodup', lookup_eq_some_iff_of_nodup nodup, perm.mem_iff]

/-- What is taken from a list comes in every order, if the list does. -/
theorem exists_perm_filterMap {f : α → Option β} {l : List α} {order : List β}
    (perm : order.Perm (l.filterMap f)) : ∃ l' : List α, l'.Perm l ∧ l'.filterMap f = order := by
  induction l generalizing order with
  | nil =>
    obtain rfl := perm.eq_nil
    exact ⟨[], .refl _, rfl⟩
  | cons a rest ih =>
    cases taken : f a with
    | none =>
      rw [List.filterMap_cons_none taken] at perm
      obtain ⟨l', perm', rfl⟩ := ih perm
      exact ⟨a :: l', perm'.cons a, List.filterMap_cons_none taken⟩
    | some b =>
      rw [List.filterMap_cons_some taken] at perm
      -- `a` goes to the place where `b` stands among what is taken from the others
      obtain ⟨before, after, rfl⟩ := List.append_of_mem (perm.mem_iff.2 List.mem_cons_self)
      obtain ⟨l', perm', parted⟩ := ih (List.perm_middle.symm.trans perm).cons_inv
      obtain ⟨first, last, rfl, rfl, rfl⟩ := List.filterMap_eq_append_iff.1 parted
      refine ⟨first ++ a :: last, List.perm_middle.trans (perm'.cons a), ?_⟩
      rw [List.filterMap_append, List.filterMap_cons_some taken]

end Perm

namespace FileSystem

variable {fs fs' : FileSystem} {l : Location}

/-! ### Questions that do not depend on the order -/

/-- Every location has the same entry in both files. -/
structure SameEntries (fs fs' : FileSystem) : Prop where
  workingDirectory : fs'.workingDirectory = fs.workingDirectory
  entry : ∀ k, fs'.entry? k = fs.entry? k

section Same

variable (same : SameEntries fs fs')

include same

theorem walkWith_congr (followLast : Bool) (follow : Location → List Bytes → Except SystemError Location)
    (l : Location) (segments : List Bytes) :
    fs'.walkWith followLast follow l segments = fs.walkWith followLast follow l segments := by
  induction segments generalizing l with
  | nil => rfl
  | cons s rest ih => simp only [walkWith, same.entry, ih]

theorem walk_congr (followLast : Bool) (n : Nat) : fs'.walk followLast n = fs.walk followLast n := by
  induction n with
  | zero => exact funext₂ (walkWith_congr same followLast _)
  | succ n ih =>
    rw [walk, walk, ih]
    exact funext₂ (walkWith_congr same followLast _)

theorem resolve_congr (p : Path) : fs'.resolve p = fs.resolve p := by
  simp only [resolve, locate, walk_congr same, startOf_congr same.workingDirectory, same.entry]

theorem isDirectory_congr (p : Path) : fs'.isDirectory p = fs.isDirectory p := by
  rw [isDirectory, isDirectory, resolve_congr same]

theorem isFile_congr (p : Path) : fs'.isFile p = fs.isFile p := by
  rw [isFile, isFile, resolve_congr same]

theorem readText_congr (p : Path) : fs'.readText p = fs.readText p := by
  rw [readText, readText, readBytes, readBytes, resolve_congr same]

end Same

/-! ### Orders of a listing -/

/-- The same entries, which a directory may list in another order. -/
structure Relisted (fs fs' : FileSystem) : Prop where
  workingDirectory : fs'.workingDirectory = fs.workingDirectory
  entries : fs'.entries.Perm fs.entries

theorem Relisted.sameEntries (relisted : Relisted fs fs') (wf : fs.WellFormed) : SameEntries fs fs' := by
  refine ⟨relisted.workingDirectory, fun k => ?_⟩
  rw [FileSystem.entry?, FileSystem.entry?, lookup_perm relisted.entries wf.nodup]

theorem Relisted.perm_namesIn (relisted : Relisted fs fs') (l : Location) :
    (fs'.namesIn l).Perm (fs.namesIn l) :=
  relisted.entries.filterMap _

/-- A directory may list its names in every order. -/
theorem exists_relisted {order : List Bytes} (perm : order.Perm (fs.namesIn l)) :
    ∃ fs', Relisted fs fs' ∧ fs'.namesIn l = order := by
  obtain ⟨entries, perm', listed⟩ := exists_perm_filterMap perm
  exact ⟨⟨entries, fs.workingDirectory⟩, ⟨rfl, perm'⟩, listed⟩

end FileSystem

end SchemaHistory
