import SchemaHistory.Proofs.Files.Parent
import SchemaHistory.Proofs.Text.Shown
import SchemaHistory.Report.Writer

/-!
What is changed when reports are written.

A report that is written into the folder of a migration changes two files there, the report and the one
that it is written to before it is moved. What is at other names stays, as do all directories.
-/

namespace SchemaHistory

open FileSystem SchemaHistory.Path Action

/-! ### Bytes of texts -/

namespace Bytes

theorem slash_notMem_ofString_toString (n : Nat) : slash ∉ ofString (toString n) := by
  rw [ofString_eq_flatMap, List.mem_flatMap]
  rintro ⟨c, member, inside⟩
  have digit : c.isDigit = true := Nat.isDigit_of_mem_toDigits (by decide) (by decide)
    (Nat.toList_repr ▸ member)
  have bounds : 48 ≤ c.val.toNat ∧ c.val.toNat ≤ 57 := by
    simpa [Char.isDigit, UInt32.le_iff_toNat_le] using digit
  have small : c.utf8Size = 1 := Char.utf8Size_eq_one_iff.2
    (UInt32.le_iff_toNat_le.2 (bounds.2.trans (by decide)))
  rw [String.utf8EncodeChar_eq_singleton small, List.mem_singleton] at inside
  have code : (47 : Nat) = c.val.toNat % 2 ^ 8 := by
    rw [← UInt32.toNat_toUInt8, ← inside]
    rfl
  omega

end Bytes

namespace Report

variable {name : String}

/-- The name of the file that a report is written to before it is moved to its place. -/
def temporaryName (name : String) (run : Nat) : String := name ++ "." ++ toString run ++ ".tmp"

theorem ofString_temporaryName (name : String) (run : Nat) : Bytes.ofString (temporaryName name run) =
    Bytes.ofString name ++
      (Bytes.ofString "." ++ (Bytes.ofString (toString run) ++ Bytes.ofString ".tmp")) := by
  rw [temporaryName, Bytes.ofString_append, Bytes.ofString_append, Bytes.ofString_append,
    List.append_assoc, List.append_assoc]

theorem temporaryName_ne (name : String) (run : Nat) :
    Bytes.ofString (temporaryName name run) ≠ Bytes.ofString name := by
  intro same
  have lengths := congrArg List.length same
  have dot : (Bytes.ofString ".").length = 1 := by decide
  rw [ofString_temporaryName, List.length_append, List.length_append] at lengths
  omega

theorem isName_temporaryName (whole : slash ∉ Bytes.ofString name) (run : Nat) :
    IsName (.ofString (temporaryName name run)) := by
  have parts := ofString_temporaryName name run
  have longer : 2 < (Bytes.ofString (temporaryName name run)).length := by
    have ending : (Bytes.ofString ".tmp").length = 4 := by decide
    rw [parts, List.length_append, List.length_append, List.length_append]
    omega
  refine ⟨?_, fun same => ?_, ?_⟩
  · rw [isTrivial, Bool.or_eq_false_iff, List.isEmpty_eq_false_iff, beq_eq_false_iff_ne]
    constructor <;> intro same <;> rw [same] at longer <;> exact absurd longer (by decide)
  · rw [same] at longer
    exact absurd longer (by decide)
  · rw [parts]
    simp only [List.mem_append, not_or]
    exact ⟨whole, by decide, Bytes.slash_notMem_ofString_toString run, by decide⟩

theorem temporary_join {p : Path} {n : Bytes} (isName : IsName n) (isName' : IsName (.ofString name))
    (run : Nat) : temporary ((p.join ⟨n⟩).join (.ofString name)) run =
      (p.join ⟨n⟩).join (.ofString (temporaryName name run)) := by
  rw [temporary, Path.ofString, p.fileName?_join isName isName', p.withFileName_join isName isName']
  rw [Option.map_some, Option.getD_some, Bytes.shown, Bytes.text?_ofString]
  rfl

/-! ### Writing -/

/-- Files with some names have changed in a directory, and nothing else. -/
structure Changed (d : Location) (names : List Bytes) (fs fs' : FileSystem) : Prop where
  workingDirectory : fs'.workingDirectory = fs.workingDirectory
  wellFormed : fs'.WellFormed
  unlinked : ∀ p, fs.Unlinked p → fs'.Unlinked p
  directory : ∀ k, fs.entry? k = some .directory → fs'.entry? k = some .directory
  others : ∀ k, (∀ x ∈ names, ¬ d ++ [x] <+: k) → fs'.entry? k = fs.entry? k
  namesIn : ∀ l, ¬ d <+: l → fs'.namesIn l = fs.namesIn l

variable {fs fs' fs'' : FileSystem} {d : Location} {names names' : List Bytes} {p : Path} {n : Bytes}

theorem Changed.trans (first : Changed d names fs fs') (second : Changed d names' fs' fs'') :
    Changed d (names ++ names') fs fs'' where
  workingDirectory := second.workingDirectory.trans first.workingDirectory
  wellFormed := second.wellFormed
  unlinked p unlinked := second.unlinked p (first.unlinked p unlinked)
  directory k there := second.directory k (first.directory k there)
  others k outside := by
    rw [List.forall_mem_append] at outside
    rw [second.others k outside.2, first.others k outside.1]
  namesIn l outside := by rw [second.namesIn l outside, first.namesIn l outside]

theorem Changed.opens (changed : Changed d names fs fs') (opens : fs.Opens p) : fs'.Opens p :=
  opens.congr changed.workingDirectory fun k _ => changed.directory k

theorem notPrefix_of_notPrefix {l : Location} (outside : ¬ d <+: l) (x name : Bytes) :
    ¬ d ++ [x] <+: l ++ [name] := fun inside => by
  rcases List.prefix_concat_iff.1 inside with same | below
  · exact outside ((List.append_inj' same rfl).1 ▸ List.prefix_rfl)
  · exact outside ((List.prefix_append d [x]).trans below)

/-- What a file that is written and a move of it change together. -/
theorem changed_of_written {x y : Bytes} {content : Bytes} {fs₁ : FileSystem} (wf : fs.WellFormed)
    (written : Written (d ++ [x]) content fs fs₁) (moved : Moved (d ++ [x]) (d ++ [y]) fs₁ fs')
    (mayReplace : fs₁.MayReplace (.file content) (d ++ [y])) (wf' : fs'.WellFormed) :
    Changed d [x, y] fs fs' where
  workingDirectory := moved.workingDirectory.trans written.workingDirectory
  wellFormed := wf'
  unlinked p unlinked := moved.unlinked (fun r t link => by
    by_cases here : r = []
    · rw [here, List.append_nil, written.after] at link
      exact nomatch Option.some.inj link
    · rw [(written.wellFormed wf).entry?_append_eq_none (by simp [written.after]) here] at link
      exact nomatch link) (written.unlinked unlinked)
  directory k there := by
    refine moved.directory (written.wellFormed wf) written.after mayReplace (written.directory there) ?_
    rintro ⟨r, rfl⟩
    by_cases here : r = []
    · rw [here, List.append_nil] at there
      exact written.before there
    · exact written.before (wf.directory_of_entry here there)
  others k outside := by
    rw [List.forall_mem_cons, List.forall_mem_singleton] at outside
    rw [moved.others k outside.2, if_neg outside.1,
      written.others k fun same => outside.1 (same ▸ List.prefix_rfl)]
  namesIn l outside := by
    rw [moved.names l (notPrefix_of_notPrefix outside x) (notPrefix_of_notPrefix outside y),
      written.names l fun name same => notPrefix_of_notPrefix outside x name (same ▸ List.prefix_rfl)]

/-- The folder of a migration, at a path that can be looked up. -/
structure Place (p : Path) (n : Bytes) (fs : FileSystem) : Prop where
  isName : IsName n
  wellFormed : fs.WellFormed
  unlinked : fs.Unlinked (p.join ⟨n⟩)
  opens : fs.Opens (p.join ⟨n⟩)
  fits : (p.join ⟨n⟩).Fits

theorem settle_eq_ok {temporary path : Path} {u : Unit} (settled : settle temporary path fs = .ok u fs') :
    fs.rename temporary path = .ok fs' := by
  rw [settle, tryCatch_eq_ok_iff] at settled
  rcases settled with moved | ⟨e, fs₁, -, handled⟩
  · exact change_eq_ok_iff.1 (adaptExcept_eq_ok_iff.1 moved)
  · obtain ⟨_, _, -, thrown⟩ := bind_eq_ok_iff.1 handled
    exact nomatch thrown

theorem changed_of_writeWhole {run : Nat} {text : String} {u : Unit} (place : Place p n fs)
    (isName : IsName (.ofString name))
    (done : writeWhole run ((p.join ⟨n⟩).join (.ofString name)) text fs = .ok u fs') :
    Changed (fs.goalOf (p.join ⟨n⟩)) [.ofString (temporaryName name run), .ofString name] fs fs' := by
  have home : fs.entry? (fs.goalOf (p.join ⟨n⟩)) = some .directory := by
    rw [goalOf_join place.isName]
    exact ((opens_join_iff place.isName).1 place.opens).2.2
  have above : fs.entry? (fs.goalOf p) = some .directory := by
    rw [goalOf_join place.isName] at home
    exact place.wellFormed.directory_of_entry (by simp) home
  have isTemporary := isName_temporaryName isName.whole run
  have parent : ((p.join ⟨n⟩).join (.ofString name)).parent? = some (p.join ⟨n⟩) :=
    p.parent?_join place.isName isName
  rw [writeWhole, writeWholeUntil, parent] at done
  simp only [bind_eq_ok_iff, temporary_join place.isName isName] at done
  obtain ⟨u₀, fs₀, made, u₁, fs₁, written, settled⟩ := done
  obtain rfl := unchanged_of_makeDirectories place.isName place.opens above place.fits
    (adaptExcept_eq_ok_iff.1 made)
  have written := written_of_writeBytes place.opens home isTemporary (place.unlinked.below _)
    (change_eq_ok_iff.1 (adaptExcept_eq_ok_iff.1 written))
  have goals := goalOf_congr written.workingDirectory (p.join ⟨n⟩)
  have opens := written.opens place.opens
  have renamed := settle_eq_ok settled
  obtain ⟨-, -, -, -, moved, e, there, mayReplace⟩ := moved_of_rename opens.noLink opens.noLink
    isTemporary isName (fun same => temporaryName_ne name run (by simpa using same)) renamed
  rw [goals] at moved there mayReplace
  obtain rfl := Option.some.inj (written.after.symm.trans there)
  exact changed_of_written place.wellFormed written moved mayReplace
    ((written.wellFormed place.wellFormed).rename renamed)

theorem Place.of_changed (place : Place p n fs) (changed : Changed d names fs fs') : Place p n fs' :=
  ⟨place.isName, changed.wellFormed, changed.unlinked _ place.unlinked, changed.opens place.opens,
    place.fits⟩

/-- The names of the files that are written by a run. -/
def fileNames (run : Nat) : List String :=
  [temporaryName filteredFile run, filteredFile, temporaryName missingFile run, missingFile]

/-- Writing the reports into the folder of a migration changes nothing but four files there. -/
theorem changed_of_write {run : Nat} {filtered missing : List Statement} {now : Timestamp}
    {paths : ReportPaths} (place : Place p n fs)
    (done : write run (p.join ⟨n⟩) filtered missing now fs = .ok paths fs') :
    Changed (fs.goalOf (p.join ⟨n⟩)) ((fileNames run).map Bytes.ofString) fs fs' := by
  simp only [write, bind_eq_ok_iff] at done
  obtain ⟨u, fs₁, first, u', fs₂, second, ended⟩ := done
  cases ended
  have changed := changed_of_writeWhole place (by decide) first
  have changed' := changed_of_writeWhole (place.of_changed changed) (by decide) second
  rw [goalOf_congr changed.workingDirectory] at changed'
  exact changed.trans changed'

end Report

end SchemaHistory
