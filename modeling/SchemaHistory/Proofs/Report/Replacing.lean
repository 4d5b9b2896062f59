import SchemaHistory.Proofs.Files.Placed
import SchemaHistory.Proofs.Report.Writing

/-!
A file is replaced as a whole, or what was there is left alone.

A file that is given a text is written beside its place first, where the system may stop midway. Where the
directories above are missing they are made, and stay. The place of the file changes only if all went well:
it then holds the whole text, whatever was there. A link at the place is replaced and not followed, so that
paths through it lead nowhere any more, which may be true of the file's own path. If something went wrong,
all that was there is there as before. Of the text, no more than a part is left, beside the place, and not
even that if the whole text was written and could not be moved.
-/

namespace SchemaHistory

open FileSystem SchemaHistory.Path Action

namespace Report

variable {run : Nat} {path parent : Path} {x t content : Bytes} {text : String} {stop : Option Stop}
  {fs made fs' : FileSystem} {d : Location} {slot : Slot}

/-! ### The temporary file -/

/-- A path that ends in a name, the path without it, and the name of the temporary file. -/
structure Beside (run : Nat) (path parent : Path) (x t : Bytes) : Prop where
  above : path.parent? = some parent
  steps : path.steps = parent.steps ++ [x]
  there : temporary path run = parent.join ⟨t⟩
  isName : IsName t
  other : t ≠ x

theorem beside_of_fileName? (named : path.fileName? = some x) (run : Nat) :
    ∃ parent, Beside run path parent x (.ofString (temporaryName x.shown run)) := by
  obtain ⟨isName, -⟩ := steps_of_fileName? named
  obtain ⟨parent, above, steps⟩ := exists_parent?_of_fileName? named
  refine ⟨parent, above, steps, ?_, isName_temporaryName (fun inside => ?_) run, fun same => ?_⟩
  · rw [temporary, withFileName, named, above]
    rfl
  · exact isName.whole (Bytes.mem_of_mem_ofString_shown (by decide) inside)
  · -- such a name is a text, which is shown as it is
    have valid : (Bytes.text? x).isSome = true := by rw [← same, Bytes.text?_ofString, Option.isSome_some]
    exact temporaryName_ne x.shown run (same.trans (Bytes.ofString_shown valid).symm)

/-- The files as they are when a file is written: the directories above it are made. -/
def prepared (path : Path) (fs : FileSystem) : FileSystem :=
  match path.parent? with
  | some parent => leftBy (makeDirectories parent fs)
  | none => fs

/-- Files in which a file can be written beside its place: nothing is where the temporary file will be. -/
structure Ready (run : Nat) (path : Path) (fs : FileSystem) : Prop where
  wellFormed : fs.WellFormed
  home : fs.entry? fs.workingDirectory = some .directory
  named : path.fileName?.isSome = true
  free : ∀ slot, (prepared path fs).slotOf (temporary path run) = .ok slot → fs.entry? slot.location = none

theorem Beside.prepared_eq (beside : Beside run path parent x t) (fs : FileSystem) :
    prepared path fs = leftBy ((makeDirectories parent).at parent fs) := by
  rw [prepared, beside.above, FileSystem.Action.at, leftBy_adaptExcept]

theorem Beside.grownAt (beside : Beside run path parent x t) (fs : FileSystem) :
    GrownAt (parent :: parent.parents) fs (prepared path fs) := by
  rw [prepared, beside.above]
  exact grownAt_makeDirectories parent fs

/-- A file can be put beside a place, where nothing is. -/
structure Room (run : Nat) (path : Path) (d : Location) (t : Bytes) (made : FileSystem) : Prop where
  wellFormed : made.WellFormed
  home : made.entry? made.workingDirectory = some .directory
  directory : made.entry? d = some .directory
  found : made.slotOf (temporary path run) = .ok ⟨d, t, false⟩
  free : made.entry? (d ++ [t]) = none

/-- The temporary file is written where nothing was. -/
theorem Ready.room (ready : Ready run path fs) (beside : Beside run path parent x t)
    (written : (prepared path fs).writeBytes (temporary path run) content = .ok fs') :
    ∃ d, Room run path d t (prepared path fs) ∧ fs' = (prepared path fs).put (d ++ [t]) (.file content) := by
  have grown := (beside.grownAt fs).toGrown
  have wf := grown.wellFormed ready.wellFormed
  have home : FileSystem.entry? (prepared path fs) (prepared path fs).workingDirectory = some .directory :=
    grown.entry?_of_some (grown.workingDirectory ▸ ready.home)
  have free := ready.free
  rw [beside.there] at written free
  have noLink : ∀ slot, (prepared path fs).slotOf (parent.join ⟨t⟩) = .ok slot →
      ∀ target, FileSystem.entry? (prepared path fs) slot.location ≠ some (.link target) :=
    fun slot found target link =>
      nomatch (free slot found).symm.trans (grown.of_entry? link Entry.noConfusion)
  obtain ⟨d, leads, found, before, same⟩ := slotOf_of_writeBytes wf home beside.isName noLink written
  refine ⟨d, ⟨wf, home, leads.home, beside.there ▸ found, ?_⟩, same⟩
  rcases grown.entry (d ++ [t]) with old | ⟨-, directory⟩
  · exact old.trans (free _ found)
  · exact absurd directory before

theorem Room.ways (room : Room run path d t made) (content : Bytes) :
    Ways made (made.put (d ++ [t]) (.file content)) :=
  ways_put_file (fun _ there => nomatch room.free.symm.trans there) content

/-- The temporary file is removed, and all is as it was. -/
theorem Room.removeFile (room : Room run path d t made) (isName : IsName t) (content : Bytes) :
    (made.put (d ++ [t]) (.file content)).removeFile (temporary path run) = .ok made := by
  have found := (room.ways content).slotOf room.found
  have there : entry? (made.put (d ++ [t]) (.file content)) (d ++ [t]) = some (.file content) := by
    rw [entry?_put (by simp), if_pos rfl]
  rw [removeFile_of_slotOf found (Slot.isNamed_of_isName isName) rfl there Entry.noConfusion]
  exact congrArg Except.ok (cut_put_of_free room.wellFormed room.free _)

/-- In whatever directory, the temporary file is not at the place of the path. -/
theorem Beside.ne_location (beside : Beside run path parent x t) (found : made.slotOf path = .ok slot)
    (named : slot.isNamed = true) (d : Location) : d ++ [t] ≠ slot.location := by
  intro same
  have here : slot.name = x := name_of_slotOf beside.steps found named
  exact beside.other (here ▸ List.singleton_inj.1 (List.append_inj' same rfl).2)

/-! ### Moving the temporary file to its place -/

theorem settle_of_rename_eq_error {temporary path : Path} {cause : SystemError}
    (refused : fs.rename temporary path = .error cause) (removed : fs.removeFile temporary = .ok made) :
    settle temporary path fs = .error (.access path cause) made := by
  have failed : (change (rename · temporary path)).at path fs = .error (.access path cause) fs :=
    adaptExcept_eq_error_iff.2 ⟨cause, change_eq_error_iff.2 ⟨refused, rfl⟩, rfl⟩
  rw [settle, tryCatch_apply, failed]
  exact bind_eq_error_iff.2 (Or.inr ⟨(), made,
    tryCatch_eq_ok_iff.2 (Or.inl (adaptExcept_eq_ok_iff.2 (change_eq_ok_iff.2 removed))), rfl⟩)

theorem settle_eq_error {temporary path : Path} {e : Failure}
    (failed : settle temporary path fs = .error e fs') (removed : fs.removeFile temporary = .ok made) :
    fs' = made := by
  cases renamed : fs.rename temporary path with
  | ok fs₁ =>
    have done : (change (rename · temporary path)).at path fs = .ok () fs₁ :=
      adaptExcept_eq_ok_iff.2 (change_eq_ok_iff.2 renamed)
    rw [settle, tryCatch_apply, done] at failed
    cases failed
  | error cause =>
    rw [settle_of_rename_eq_error renamed removed] at failed
    cases failed
    rfl

/-- A file is at a place where no directory was, and nothing else has changed. -/
structure Settled (path : Path) (slot : Slot) (content : Bytes) (made fs' : FileSystem) : Prop where
  found : made.slotOf path = .ok slot
  named : slot.isNamed = true
  plain : slot.slashed = false
  noDirectory : made.entry? slot.location ≠ some .directory
  workingDirectory : fs'.workingDirectory = made.workingDirectory
  wellFormed : fs'.WellFormed
  entry : ∀ k, fs'.entry? k = if k = slot.location then some (.file content) else made.entry? k

/-- The temporary file is moved to the place of the path. -/
theorem Room.settled (room : Room run path d t made) (beside : Beside run path parent x t)
    (renamed : (made.put (d ++ [t]) (.file content)).rename (temporary path run) path = .ok fs') :
    ∃ slot, Settled path slot content made fs' ∧ d ++ [t] ≠ slot.location := by
  have written : Written (d ++ [t]) content made _ :=
    written_put beside.isName room.directory (by simp [room.free])
  have wf := written.wellFormed room.wellFormed
  obtain ⟨source, slot, e, found, found', -, named, there, plain, inside, above, moved⟩ :=
    rename_eq_ok renamed
  obtain rfl := Except.ok.inj (found.symm.trans ((room.ways content).slotOf room.found))
  have found₀ : made.slotOf path = .ok slot := (ways_of_put_file (by simp) content).slotOf found'
  have other := beside.ne_location found₀ named d
  obtain rfl := Option.some.inj (written.after.symm.trans there)
  rcases moved with ⟨same, -⟩ | ⟨-, mayReplace, same⟩
  · exact absurd same other
  have moved : Moved (d ++ [t]) slot.location _ fs' :=
    same ▸ moved_relocate (apart_concat inside above other) (by simp) (by simp)
  have noDirectory : made.entry? slot.location ≠ some .directory := fun directory =>
    nomatch (mayReplace _ ((written.others _ other.symm).trans directory)).1.1 rfl
  refine ⟨slot, ⟨found₀, named, (plain Entry.noConfusion).2, noDirectory,
    moved.workingDirectory.trans written.workingDirectory, wf.rename renamed, fun k => ?_⟩, other⟩
  by_cases arrived : slot.location <+: k
  · obtain ⟨r, rfl⟩ := arrived
    rw [moved.arrived]
    by_cases here : r = []
    · rw [here, List.append_nil, List.append_nil, if_pos rfl, written.after]
    · rw [wf.entry?_append_eq_none (by simp [written.after]) here, if_neg (by simpa using here),
        room.wellFormed.entry?_append_eq_none noDirectory here]
  · have elsewhere : k ≠ slot.location := fun same => arrived (same ▸ List.prefix_rfl)
    rw [moved.others k arrived, if_neg elsewhere]
    split
    · rename_i gone
      obtain ⟨r, rfl⟩ := gone
      by_cases here : r = []
      · rw [here, List.append_nil, room.free]
      · rw [room.wellFormed.entry?_append_eq_none (by simp [room.free]) here]
    · rename_i apart
      exact written.others k fun same : k = d ++ [t] => apart (same ▸ List.prefix_rfl)

namespace Settled

variable (settled : Settled path slot content made fs')

include settled

theorem entry?_cut (wf : made.WellFormed) (k : Location) :
    entry? (made.cut slot.location) k = if k = slot.location then none else made.entry? k := by
  rw [FileSystem.entry?_cut (by simp [Slot.location])]
  by_cases here : k = slot.location
  · rw [if_pos here, if_pos (here ▸ List.prefix_rfl)]
  · rw [if_neg here]
    split
    · rename_i inside
      obtain ⟨r, rfl⟩ := inside
      exact (wf.entry?_append_eq_none settled.noDirectory (by simpa using here)).symm
    · rfl

/-- Without what was at the place, nothing that was there is gone. -/
theorem kept (wf : made.WellFormed) : Kept (made.cut slot.location) fs' := by
  refine kept_of_entries settled.workingDirectory fun k e there => ?_
  rw [settled.entry?_cut wf] at there
  rw [settled.entry]
  split at there
  · cases there
  · rename_i other
    rwa [if_neg other]

theorem ways (wf : made.WellFormed) : Ways fs' (made.cut slot.location) := by
  refine ⟨settled.workingDirectory.symm, fun k e there other => ?_⟩
  rw [settled.entry] at there
  rw [settled.entry?_cut wf]
  split at there
  · exact absurd (Option.some.inj there).symm (other content)
  · rename_i elsewhere
    rwa [if_neg elsewhere]

theorem ways_made : Ways fs' made := by
  refine ⟨settled.workingDirectory.symm, fun k e there other => ?_⟩
  rw [settled.entry] at there
  split at there
  · exact absurd (Option.some.inj there).symm (other content)
  · exact there

/-- What is in no path's way can be taken away. -/
theorem ways_cut (wf : made.WellFormed)
    (noLink : ∀ target, made.entry? slot.location ≠ some (.link target)) :
    Ways made (made.cut slot.location) := by
  refine ⟨rfl, fun k e there other => ?_⟩
  rw [settled.entry?_cut wf, if_neg, there]
  rintro rfl
  cases e with
  | file c => exact other c rfl
  | directory => exact settled.noDirectory there
  | link target => exact noLink target there

/-- The path leads to the file unless it led through a link at the place. -/
theorem resolve_iff (wf : made.WellFormed) (home : made.entry? made.workingDirectory = some .directory) :
    fs'.resolve path = .ok (slot.location, .file content) ↔
      (made.cut slot.location).slotOf path = .ok slot := by
  have there := settled.entry slot.location
  rw [if_pos rfl] at there
  constructor
  · intro resolved
    have home' : fs'.entry? fs'.workingDirectory = some .directory := by
      rw [settled.workingDirectory, settled.entry, if_neg, home]
      intro same
      exact settled.noDirectory (same ▸ home)
    exact (settled.ways wf).slotOf (slotOf_of_resolve settled.wellFormed home' settled.ways_made
      settled.found settled.named settled.plain resolved)
  · intro found
    exact resolve_of_slotOf ((settled.kept wf).slotOf _ _ found) settled.named settled.plain there
      fun _ => Entry.noConfusion

end Settled

/-! ### All or nothing -/

/-- A file was given a text. Its path names a place, once the directories above are made. The file with the
text is there, and nothing else has changed. The path leads to it, unless it led through the link that was at
the place; the same is true of what other paths lead to. -/
structure Replaced (run : Nat) (path : Path) (text : String) (slot : Slot) (fs fs' : FileSystem) : Prop where
  name : path.fileName? = some slot.name
  place : (prepared path fs).slotOf path = .ok slot
  workingDirectory : fs'.workingDirectory = fs.workingDirectory
  file : fs'.entry? slot.location = some (.file (.ofString text))
  others : ∀ k, k ≠ slot.location → fs'.entry? k = entry? (prepared path fs) k
  noTemporary : ∀ s, (prepared path fs).slotOf (temporary path run) = .ok s ∨
    fs'.slotOf (temporary path run) = .ok s → fs'.entry? s.location = none
  resolve_iff : fs'.resolve path = .ok (slot.location, .file (.ofString text)) ↔
    ((prepared path fs).cut slot.location).slotOf path = .ok slot
  unlinked : (∀ target, fs.entry? slot.location ≠ some (.link target)) →
    fs'.resolve path = .ok (slot.location, .file (.ofString text))
  kept : Kept (fs.cut slot.location) fs'

/-- A file was not given a text. All that was there is there as before, at the place of the file too.
Directories above it are made, and at most a part of the text is left, at the temporary path. -/
structure LeftAlone (run : Nat) (path : Path) (text : String) (fs fs' : FileSystem) : Prop where
  workingDirectory : fs'.workingDirectory = fs.workingDirectory
  kept : Kept fs fs'
  place : ∀ slot, (prepared path fs).slotOf path = .ok slot → slot.isNamed = true →
    fs'.entry? slot.location = entry? (prepared path fs) slot.location
  others : ∀ k, fs'.entry? k = entry? (prepared path fs) k ∨ ∃ slot part,
    (prepared path fs).slotOf (temporary path run) = .ok slot ∧ slot.location = k ∧
      fs'.entry? k = some (.file part) ∧ part <+: Bytes.ofString text

/-- The whole text is at the temporary path, and is still to be moved. -/
structure Filled (stop : Option Stop) (run : Nat) (path : Path) (text : String) (fs filled : FileSystem) :
    Prop where
  above : ∀ parent, path.parent? = some parent → makeDirectories parent fs = .ok () (prepared path fs)
  file : fill stop (temporary path run) text (prepared path fs) = .ok () filled

theorem Ready.replaced (ready : Ready run path fs) (beside : Beside run path parent x t)
    (named : path.fileName? = some x)
    (written : (prepared path fs).writeText (temporary path run) text = .ok made)
    (renamed : made.rename (temporary path run) path = .ok fs') :
    ∃ slot, Replaced run path text slot fs fs' := by
  have grown := (beside.grownAt fs).toGrown
  obtain ⟨d, room, rfl⟩ := ready.room beside written
  obtain ⟨slot, settled, other⟩ := room.settled beside renamed
  have name : slot.name = x := name_of_slotOf beside.steps settled.found settled.named
  have led := settled.resolve_iff room.wellFormed room.home
  have there := settled.entry slot.location
  rw [if_pos rfl] at there
  refine ⟨slot, named.trans (congrArg some name.symm), settled.found,
    settled.workingDirectory.trans grown.workingDirectory, there, fun k elsewhere => ?others,
    fun s found => ?noTemporary, led, fun noLink => led.2 ?unlinked, ?kept⟩
  case others => rw [settled.entry, if_neg elsewhere]
  case noTemporary =>
    have found : (prepared path fs).slotOf (temporary path run) = .ok s :=
      found.elim id settled.ways_made.slotOf
    obtain rfl := Except.ok.inj (found.symm.trans room.found)
    exact (settled.entry _).trans ((if_neg other).trans room.free)
  case unlinked =>
    refine (settled.ways_cut room.wellFormed fun target link => ?_).slotOf settled.found
    exact noLink target (grown.of_entry? link Entry.noConfusion)
  case kept =>
    have below : slot.location ≠ [] := by simp [Slot.location]
    refine kept_of_entries (settled.workingDirectory.trans grown.workingDirectory) fun k e there => ?_
    rw [FileSystem.entry?_cut below] at there
    split at there
    · cases there
    · rename_i outside
      have elsewhere : k ≠ slot.location := fun same => outside (same ▸ List.prefix_rfl)
      rw [settled.entry, if_neg elsewhere]
      exact grown.entry?_of_some there

/-- Where no temporary file was, no more than a part of it is left. -/
theorem Ready.leftAlone (ready : Ready run path fs) (beside : Beside run path parent x t)
    (course : fs' = prepared path fs ∨ ∃ part, part <+: Bytes.ofString text ∧
      (prepared path fs).writeBytes (temporary path run) part = .ok fs') :
    LeftAlone run path text fs fs' := by
  have grown := (beside.grownAt fs).toGrown
  rcases course with rfl | ⟨part, within, written⟩
  · exact ⟨grown.workingDirectory, grown.kept, fun _ _ _ => rfl, fun _ => Or.inl rfl⟩
  obtain ⟨d, room, rfl⟩ := ready.room beside written
  have entry : ∀ k, entry? ((prepared path fs).put (d ++ [t]) (.file part)) k =
      if k = d ++ [t] then some (.file part) else entry? (prepared path fs) k :=
    entry?_put (by simp) (.file part)
  have same := (workingDirectory_put (prepared path fs) (d ++ [t]) (.file part)).trans grown.workingDirectory
  refine ⟨same, ?kept, fun slot found named => ?place, fun k => ?others⟩
  case kept =>
    refine kept_of_entries same fun k e there => ?_
    have there := grown.entry?_of_some there
    rw [entry, if_neg, there]
    rintro rfl
    exact nomatch room.free.symm.trans there
  case place => rw [entry, if_neg (beside.ne_location found named d).symm]
  case others =>
    rw [entry]
    split
    · rename_i here
      exact Or.inr ⟨_, part, room.found, here.symm, rfl, within⟩
    · exact Or.inl rfl

/-- A file that is given a text holds the whole text in the end, and nothing else is touched, but that
missing directories above it are made. If the file with the text cannot be moved to its place, these are all
that is left. And whatever goes wrong, all that was there is there as before. -/
theorem replaced_or_leftAlone (ready : Ready run path fs) (text : String) (stop : Option Stop) :
    (∃ parent, path.parent? = some parent ∧ GrownAt (parent :: parent.parents) fs (prepared path fs)) ∧
    (∀ u fs', writeWholeUntil stop run path text fs = .ok u fs' →
      ∃ slot, Replaced run path text slot fs fs') ∧
    (∀ filled cause, Filled stop run path text fs filled →
      filled.rename (temporary path run) path = .error cause →
      writeWholeUntil stop run path text fs = .error (.access path cause) (prepared path fs) ∧
        ∀ slot, (prepared path fs).slotOf (temporary path run) = .ok slot →
          entry? (prepared path fs) slot.location = none) ∧
    ∀ e fs', writeWholeUntil stop run path text fs = .error e fs' → LeftAlone run path text fs fs' := by
  obtain ⟨x, named⟩ := Option.isSome_iff_exists.1 ready.named
  obtain ⟨parent, beside⟩ := beside_of_fileName? named run
  have madeBy := beside.prepared_eq fs
  refine ⟨⟨parent, beside.above, beside.grownAt fs⟩, fun u fs' done => ?done,
    fun filled cause was refused => ?refused, fun e fs' failed => ?failed⟩
  case done =>
    rw [writeWholeUntil, beside.above] at done
    simp only [bind_eq_ok_iff] at done
    obtain ⟨_, made, directories, _, _, filled, settled⟩ := done
    obtain rfl : prepared path fs = made := madeBy.trans (congrArg leftBy directories)
    exact ready.replaced beside named (fill_eq_ok_iff.1 (adaptExcept_eq_ok_iff.1 filled)).2
      (settle_eq_ok settled)
  case refused =>
    obtain ⟨d, room, rfl⟩ := ready.room beside (fill_eq_ok_iff.1 was.file).2
    have settled := settle_of_rename_eq_error refused (room.removeFile beside.isName _)
    refine ⟨?_, fun slot found => ?_⟩
    · rw [writeWholeUntil, beside.above]
      exact bind_eq_error_iff.2 (Or.inr ⟨(), _, adaptExcept_eq_ok_iff.2 (was.above parent beside.above),
        bind_eq_error_iff.2 (Or.inr ⟨(), _, adaptExcept_eq_ok_iff.2 was.file, settled⟩)⟩)
    · obtain rfl := Except.ok.inj (found.symm.trans room.found)
      exact room.free
  case failed =>
    refine ready.leftAlone beside ?_
    rw [writeWholeUntil, beside.above] at failed
    simp only [bind_eq_error_iff] at failed
    rcases failed with directories | ⟨_, made, directories, filling⟩
    · exact Or.inl (madeBy.trans (congrArg leftBy directories)).symm
    obtain rfl : prepared path fs = made := madeBy.trans (congrArg leftBy directories)
    rcases filling with stopped | ⟨_, _, filled, settled⟩
    · obtain ⟨_, stopped, -⟩ := adaptExcept_eq_error_iff.1 stopped
      exact fill_eq_error stopped
    · obtain ⟨d, room, rfl⟩ := ready.room beside (fill_eq_ok_iff.1 (adaptExcept_eq_ok_iff.1 filled)).2
      exact Or.inl (settle_eq_error settled (room.removeFile beside.isName _))

theorem free_of_all {found : Except SystemError Slot}
    (free : found.toOption.all (fun slot => (fs.entry? slot.location).isNone) = true) (slot : Slot)
    (there : found = .ok slot) : fs.entry? slot.location = none := by
  subst there
  exact Option.isNone_iff_eq_none.1 free

/-- A link in a directory, to a file beside the directory. -/
def linked : FileSystem where
  entries := [([[0x64]], .directory), ([[0x64], [0x72]], .link (ofString "../o")), ([[0x6F]], .file [])]
  workingDirectory := []

theorem ready_linked : Ready 7 (ofString "d/r") linked where
  wellFormed := by decide
  home := rfl
  named := by decide
  free := free_of_all (by decide +kernel)

theorem ready_linked_directory : Ready 7 (ofString "d") linked where
  wellFormed := by decide
  home := rfl
  named := by decide
  free := free_of_all (by decide +kernel)

theorem filled_linked_directory : ∃ filled, Filled none 7 (ofString "d") "new" linked filled ∧
    filled.rename (temporary (ofString "d") 7) (ofString "d") = .error .isDirectory := by
  refine ⟨_, ⟨fun parent above => ?_, eq_ok_of_succeeded (by decide +kernel)⟩, by decide +kernel⟩
  have none : (ofString "d").parent? = some ⟨[]⟩ := by decide +kernel
  obtain rfl := Option.some.inj (none.symm.trans above)
  exact eq_ok_of_succeeded (by decide +kernel)

/-- The link is replaced. A directory is left alone, and so is the link if there is no room for the whole
text. -/
theorem replaced_or_leftAlone_linked :
    (Ready 7 (ofString "d/r") linked ∧
      ∃ fs' slot, writeWholeUntil none 7 (ofString "d/r") "new" linked = .ok () fs' ∧
        Replaced 7 (ofString "d/r") "new" slot linked fs') ∧
    (Ready 7 (ofString "d") linked ∧ ∃ filled, Filled none 7 (ofString "d") "new" linked filled ∧
      filled.rename (temporary (ofString "d") 7) (ofString "d") = .error .isDirectory ∧
      ∃ fs', writeWholeUntil none 7 (ofString "d") "new" linked =
        .error (.access (ofString "d") .isDirectory) fs' ∧
        LeftAlone 7 (ofString "d") "new" linked fs') ∧
    ∃ e fs', writeWholeUntil (some ⟨2, .noSpace⟩) 7 (ofString "d/r") "new" linked = .error e fs' ∧
      fs'.entry? [[0x64], .ofString "r.7.tmp"] = some (.file (.ofString "ne")) ∧
      LeftAlone 7 (ofString "d/r") "new" linked fs' := by
  have done := eq_ok_of_succeeded (r := writeWholeUntil none 7 (ofString "d/r") "new" linked)
    (by decide +kernel)
  obtain ⟨slot, replaced⟩ := (replaced_or_leftAlone ready_linked "new" none).2.1 _ _ done
  obtain ⟨filled, was, refused⟩ := filled_linked_directory
  obtain ⟨-, -, unmoved, failed⟩ := replaced_or_leftAlone ready_linked_directory "new" none
  have same := (unmoved filled _ was refused).1
  obtain ⟨e, stopped⟩ := exists_eq_error
    (r := writeWholeUntil (some ⟨2, .noSpace⟩) 7 (ofString "d/r") "new" linked) (by decide +kernel)
  exact ⟨⟨ready_linked, _, slot, done, replaced⟩,
    ⟨ready_linked_directory, filled, was, refused, _, same, failed _ _ same⟩,
    e, _, stopped, by decide +kernel, (replaced_or_leftAlone ready_linked "new" (some _)).2.2.2 _ _ stopped⟩

/-- Files in which nothing is at the temporary path, as far as that leads anywhere before the directories
above are made. -/
structure Vacant (run : Nat) (path : Path) (fs : FileSystem) : Prop where
  wellFormed : fs.WellFormed
  home : fs.entry? fs.workingDirectory = some .directory
  named : path.fileName?.isSome = true
  free : ∀ slot, fs.slotOf (temporary path run) = .ok slot → fs.entry? slot.location = none

/-- A link that leads to the directory it is in. -/
def selfLinked : FileSystem := ⟨[([[0x6C]], .link (ofString "."))], []⟩

/-- A file in a directory, and a link to the directory. -/
def twiceLed : FileSystem :=
  ⟨[([[0x64]], .directory), ([[0x64], [0x66]], .file []), ([[0x6C]], .link (ofString "d"))], []⟩

/-- A file that is named like a temporary one. -/
def leftOver : FileSystem := ⟨[([.ofString "f.7.tmp"], .file [])], []⟩

/-- A path through a link that it names itself leads to no file once the link is replaced. Other paths
through a link are cut off in the same way. And of a temporary path that leads through a missing directory,
it is not known before that something is there. -/
theorem not_forall_replaced :
    (¬ ∀ (run : Nat) (path : Path) (text : String) (fs fs' : FileSystem), Vacant run path fs →
      writeWhole run path text fs = .ok () fs' → fs'.isFile path = true) ∧
    (¬ ∀ (run : Nat) (path : Path) (text : String) (fs fs' : FileSystem), Ready run path fs →
      writeWhole run path text fs = .ok () fs' → ∀ q, q ≠ path → fs.isFile q = true → fs'.isFile q = true) ∧
    ¬ ∀ (run : Nat) (path : Path) (text : String) (fs fs' : FileSystem), Vacant run path fs →
      (∀ p ∈ fs.entries, ∀ target, p.2 ≠ .link target) → writeWhole run path text fs = .ok () fs' →
      ∀ q, q ≠ path → fs.isFile q = true → fs'.isFile q = true := by
  refine ⟨fun all => ?own, fun all => ?others, fun all => ?temporary⟩
  case own =>
    have vacant : Vacant 7 (ofString "l/l") selfLinked :=
      ⟨by decide, rfl, by decide, free_of_all (by decide +kernel)⟩
    exact absurd (all _ _ "" _ _ vacant (eq_ok_of_succeeded (by decide +kernel))) (by decide +kernel)
  case others =>
    have ready : Ready 7 (ofString "l") twiceLed :=
      ⟨by decide, rfl, by decide, free_of_all (by decide +kernel)⟩
    exact absurd (all _ _ "" _ _ ready (eq_ok_of_succeeded (by decide +kernel)) (ofString "l/f")
      (by decide) (by decide +kernel)) (by decide +kernel)
  case temporary =>
    have vacant : Vacant 7 (ofString "new/../f") leftOver :=
      ⟨by decide, rfl, by decide, free_of_all (by decide +kernel)⟩
    have noLink : ∀ p ∈ leftOver.entries, ∀ target, p.2 ≠ .link target := by simp [leftOver]
    exact absurd (all _ _ "" _ _ vacant noLink (eq_ok_of_succeeded (by decide +kernel)) (ofString "f.7.tmp")
      (by decide) (by decide +kernel)) (by decide +kernel)

end Report

end SchemaHistory
