import SchemaHistory.Migration.Backup
import SchemaHistory.Proofs.Files.Change

/-!
What the files hold after a backup.

A backup makes directories, moves entries and copies one file. None of these gives a file a content that no
file had before, other than none at all.
-/

namespace SchemaHistory

open FileSystem Action

namespace FileSystem

variable {fs fs' fs'' : FileSystem} {l : Location} {e : Entry} {content : Bytes}

/-- Every file of the second files is empty or holds what a file of the first ones does. -/
def NoNewContent (fs fs' : FileSystem) : Prop :=
  ∀ l content, (l, Entry.file content) ∈ fs'.entries →
    content = [] ∨ ∃ k, (k, Entry.file content) ∈ fs.entries

namespace NoNewContent

instance : IsPreorder FileSystem NoNewContent where
  refl _ l _ member := Or.inr ⟨l, member⟩
  trans _ _ _ first second l content member := by
    rcases second l content member with empty | ⟨k, there⟩
    · exact Or.inl empty
    · exact first k content there

theorem of_put (old : ∀ content, e = .file content → content = [] ∨ ∃ k, (k, e) ∈ fs.entries) :
    NoNewContent fs (fs.put l e) := by
  intro k content member
  rcases mem_of_mem_put member with there | ⟨-, same⟩
  · exact Or.inr ⟨k, there⟩
  · subst same
    exact old content rfl

theorem of_makeDirectory {p : Path} (made : fs.makeDirectory p = .ok fs') : NoNewContent fs fs' := by
  obtain ⟨slot, -, -, -, rfl⟩ := makeDirectory_eq_ok made
  exact of_put fun _ same => nomatch same

theorem of_rename {old new : Path} (renamed : fs.rename old new = .ok fs') : NoNewContent fs fs' := by
  obtain ⟨source, target, e, -, -, -, -, -, -, -, -, ⟨-, rfl⟩ | ⟨-, -, rfl⟩⟩ := rename_eq_ok renamed
  · exact refl_of NoNewContent fs'
  · intro l content member
    obtain ⟨k, there⟩ := exists_mem_of_mem_relocate member
    exact Or.inr ⟨k, mem_of_mem_cut there⟩

theorem of_writeBytes {p : Path} (old : content = [] ∨ ∃ k, (k, Entry.file content) ∈ fs.entries)
    (written : fs.writeBytes p content = .ok fs') : NoNewContent fs fs' := by
  obtain ⟨-, l, -, -, rfl⟩ := writeBytes_eq_ok written
  refine of_put fun c same => ?_
  obtain rfl := Entry.file.inj same
  exact old

end NoNewContent

theorem mem_of_readBytes {p : Path} (read : fs.readBytes p = .ok content) :
    ∃ l, (l, Entry.file content) ∈ fs.entries := by
  obtain ⟨l, resolved⟩ := readBytes_eq_ok_iff.1 read
  have there := (resolve_eq_ok_iff.1 resolved).2
  by_cases root : l = []
  · rw [root] at there
    exact nomatch there
  · rw [entry?_of_ne_nil _ root] at there
    exact ⟨l, mem_of_lookup_eq_some there⟩

theorem keeps_copy (source target : Path) : Keeps NoNewContent (copy source target) := by
  intro fs
  refine related_bind (keeps_ask _ fs) fun _ fs _ => ?_
  refine related_bind (keeps_change (fun _ _ => .of_writeBytes (Or.inl rfl)) fs) fun _ fs _ => ?_
  -- what is written is what was read just before
  refine related_bind (keeps_ask _ fs) fun content fs' read => ?_
  obtain ⟨read, rfl⟩ := ask_eq_ok_iff.1 read
  rw [change]
  cases written : fs'.writeBytes target content with
  | ok fs'' => exact .of_writeBytes (Or.inr (mem_of_readBytes read)) written
  | error e => exact refl_of NoNewContent fs'

end FileSystem

namespace Backup

theorem keeps_noNewContent (folders : List Folder) (migrations directory : Path) (lockFile : String) :
    Keeps NoNewContent (make folders migrations directory lockFile) := by
  rw [make]
  refine .bind (.adaptExcept (keeps_makeDirectories (fun _ _ _ => .of_makeDirectory) _) _) fun _ => ?_
  refine .bind (.forM fun f _ => ?check) fun _ => .bind (.forM fun f _ => ?move) fun _ => ?lock
  case check =>
    refine .bind .get fun fs => ?_
    split
    · exact .throw _
    · exact .pure _
  case move => exact .adaptExcept (keeps_change fun _ _ => .of_rename) _
  refine .bind .get fun fs => ?_
  dsimp only
  split
  · exact .bind (.adaptExcept (keeps_copy _ _) _) fun _ => .pure _
  · exact .pure _

end Backup

end SchemaHistory
