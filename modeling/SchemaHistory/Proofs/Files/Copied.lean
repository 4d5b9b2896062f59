import SchemaHistory.Proofs.Files.Unlinked

/-!
What a copy leaves.

The target of a copy is emptied before the source is read again, so what is written is what the source held
only if the two are different files. Of names behind paths without links that is seen from where they are.
Wherever links are, a file can be copied to a name at which there is a file or nothing.
-/

namespace SchemaHistory

namespace FileSystem

open SchemaHistory.Path FileSystem.Action

variable {fs fs' : FileSystem} {p q : Path} {x y content : Bytes}

/-- The target is a file with the content of another file, and nothing else changes. -/
structure Copied (source target : Location) (fs fs' : FileSystem) : Prop where
  workingDirectory : fs'.workingDirectory = fs.workingDirectory
  before : fs.entry? target ≠ some .directory
  content : ∃ content, fs.entry? source = some (.file content) ∧ fs'.entry? target = some (.file content)
  others : ∀ k, k ≠ target → fs'.entry? k = fs.entry? k

theorem put_of_writeBytes (unlinked : fs.Unlinked q) (isName : IsName y)
    (written : fs.writeBytes (q.join ⟨y⟩) content = .ok fs') :
    fs.entry? (fs.goalOf q ++ [y]) ≠ some .directory ∧
      fs' = fs.put (fs.goalOf q ++ [y]) (.file content) := by
  obtain ⟨-, l, located, before, rfl⟩ := writeBytes_eq_ok written
  obtain ⟨-, -, -, rfl⟩ := (unlinked.locate_join_iff isName).1 located
  exact ⟨before, rfl⟩

theorem copied_of_copy {u : Unit} (unlinked : fs.Unlinked p) (unlinked' : fs.Unlinked q) (isName : IsName x)
    (isName' : IsName y) (other : fs.goalOf p ++ [x] ≠ fs.goalOf q ++ [y])
    (copied : copy (p.join ⟨x⟩) (q.join ⟨y⟩) fs = .ok u fs') :
    Copied (fs.goalOf p ++ [x]) (fs.goalOf q ++ [y]) fs fs' := by
  simp only [copy, bind_eq_ok_iff, ask_eq_ok_iff, change_eq_ok_iff] at copied
  obtain ⟨-, fs, ⟨-, rfl⟩, -, fs₁, emptied, content, fs₁, ⟨read, rfl⟩, filled⟩ := copied
  obtain ⟨before, rfl⟩ := put_of_writeBytes unlinked' isName' emptied
  have noLink : ∀ t, Entry.file [] ≠ .link t := fun t same => by cases same
  have below : fs.goalOf q ++ [y] ≠ [] := by simp
  have same := workingDirectory_put fs (fs.goalOf q ++ [y]) (.file [])
  -- the source is read as it was, since it is not the file that was emptied
  obtain ⟨l, resolved⟩ := readBytes_eq_ok_iff.1 read
  obtain ⟨-, -, -, rfl, there⟩ := ((unlinked.put below noLink).resolve_join_iff isName).1 resolved
  rw [goalOf_congr same, entry?_put below, if_neg other] at there
  obtain ⟨-, rfl⟩ := put_of_writeBytes (unlinked'.put below noLink) isName' filled
  rw [goalOf_congr same]
  refine ⟨by rw [workingDirectory_put, workingDirectory_put], before, ⟨content, there, ?_⟩,
    fun k other => ?_⟩
  · rw [entry?_put below, if_pos rfl]
  · rw [entry?_put below, if_neg other, entry?_put below, if_neg other]

/-! ### Copies that are not refused -/

section Free

variable {b l : Location} (leads : fs.LeadsTo q b) (isName : IsName y) (fits : (q.join ⟨y⟩).Fits)
  (short : y.length ≤ nameLimit) (free : ∀ e, fs.entry? (b ++ [y]) = some e → ∃ c, e = .file c)

include leads isName fits short free

theorem writeBytes_join (content : Bytes) :
    fs.writeBytes (q.join ⟨y⟩) content = .ok (fs.put (b ++ [y]) (.file content)) := by
  have located := leads.locate_join isName fits short fun t link => by
    obtain ⟨_, ⟨⟩⟩ := free _ link
  rw [writeBytes, q.endsInSlash_join isName, if_neg Bool.false_ne_true]
  refine except_bind_eq_ok_iff.2 ⟨_, located, ?_⟩
  split
  · rename_i directory
    obtain ⟨_, ⟨⟩⟩ := free _ directory
  · rw [if_neg (by simp)]
    rfl

/-- A file is copied to a name at which there is a file or nothing. -/
theorem exists_copy_join {c : Bytes} (resolved : fs.resolve p = .ok (l, .file c)) :
    ∃ fs', copy p (q.join ⟨y⟩) fs = .ok () fs' := by
  have ways := ways_put_file free []
  have entry : ∀ k, entry? (fs.put (b ++ [y]) (.file [])) k =
      if k = b ++ [y] then some (.file []) else fs.entry? k := entry?_put (by simp) (.file [])
  have files : ∀ k c, fs.entry? k = some (.file c) →
      ∃ c', entry? (fs.put (b ++ [y]) (.file [])) k = some (.file c') := fun k c there => by
    rw [entry]
    split
    · exact ⟨[], rfl⟩
    · exact ⟨c, there⟩
  -- the source is still a file when the target is empty, even if it is the target
  obtain ⟨located, there⟩ := resolve_eq_ok_iff.1 resolved
  obtain ⟨c', there'⟩ := files l c there
  have source := resolve_eq_ok_iff.2 ⟨ways.locate files located there, there'⟩
  have filled := writeBytes_join (leads.mono ways) isName fits short (fun e there => by
    rw [entry, if_pos rfl] at there
    exact ⟨[], (Option.some.inj there).symm⟩) c'
  simp only [copy, bind_eq_ok_iff, ask_eq_ok_iff, change_eq_ok_iff]
  exact ⟨_, c, _, ⟨readBytes_eq_ok_iff.2 ⟨l, resolved⟩, rfl⟩, (), _,
    writeBytes_join leads isName fits short free [], c', _,
    ⟨readBytes_eq_ok_iff.2 ⟨l, source⟩, rfl⟩, filled⟩

end Free

end FileSystem

end SchemaHistory
