import SchemaHistory.CommandLine.Run
import SchemaHistory.Proofs.Files.Change

/-!
Sessions that succeed.

What a consolidation that succeeds has read, moved, called and written, one after the other, and how the
exit code of a comparison follows from its outcome.
-/

namespace SchemaHistory

namespace Command

open Session

variable {α : Type} {s : Session} {fs : FileSystem} {at_ : Circumstances} {config : Config}
  {policy : Policy} {tool : Tool} {schema : Path}

theorem exists_bind_eq_ok {β : Type} {x : Session.Action α} {f : α → Session.Action β} {a : α} {b : β}
    {u : Session} (first : x s = .ok a u) (second : ∃ t, f a u = .ok b t) : ∃ t, (x >>= f) s = .ok b t :=
  second.imp fun _ ended => bind_eq_ok_iff.2 ⟨a, u, first, ended⟩

/-! ### Consolidating -/

theorem consolidateWith_eq_ok {c : Consolidation}
    (done : consolidateWith at_ config policy tool schema (.start fs) = .ok c s) :
    ∃ folders sources b fs₁ m paths,
      Folder.discover (config.migrationsPath schema) fs = .ok folders ∧ folders ≠ [] ∧
      Folder.sources folders config.migrationFile fs = .ok sources ∧
      Backup.make folders (config.migrationsPath schema) (config.backupPath schema) config.lockFile fs =
        .ok b fs₁ ∧
      (let regenerated := (tool.run .generate (tool.run .reset fs₁).1.files).1.files
       Folder.findNew (config.migrationsPath schema) config.migrationFile regenerated = .ok m ∧
       Report.write at_.run m.folder.path c.outcome.filtered c.outcome.missing at_.now regenerated =
         .ok paths s.files) ∧
      c.migration = m.folder ∧ c.outcome = (History.ofFiltered sources policy).outcomeAgainst m.sql := by
  rw [consolidateWith, bind_eq_ok_iff] at done
  obtain ⟨folders, _, asked, done⟩ := done
  obtain ⟨listed, rfl⟩ := ask_eq_ok_iff.1 asked
  dsimp only at done
  split at done
  · obtain ⟨_, _, thrown, -⟩ := bind_eq_ok_iff.1 done
    exact nomatch thrown
  rename_i nonempty
  simp only [bind_eq_ok_iff, ask_eq_ok_iff, act_eq_ok_iff] at done
  obtain ⟨sources, _, ⟨read, rfl⟩, b, _, ⟨fs₁, made, rfl⟩, _, s₁, reset, _, s₂, generated, m, _,
    ⟨found, rfl⟩, paths, _, ⟨fs₄, written, rfl⟩, ended⟩ := done
  cases ended
  have files₁ := files_of_call reset
  have files₂ := files_of_call generated
  rw [files₁] at files₂
  rw [files₂] at found written
  exact ⟨folders, sources, b, fs₁, m, paths, listed, fun none => nonempty (List.isEmpty_iff.2 none), read,
    made, ⟨found, written⟩, rfl, rfl⟩

/-! ### Comparing -/

/-- What a comparison gives, if all that it asks for is there. -/
theorem compare_eq_ok {folders : List Folder} {sources : List Source} {m : NewMigration}
    (listed : Folder.discover (config.backupPath schema) fs = .ok folders)
    (read : Folder.sources folders config.migrationFile fs = .ok sources)
    (found : Folder.findNew (config.migrationsPath schema) config.migrationFile fs = .ok m) :
    compare config policy schema (.start fs) =
      .ok ⟨folders.length, m.folder, (History.ofFiltered sources policy).outcomeAgainst m.sql⟩
        (.start fs) := by
  rw [compare]
  refine bind_eq_ok_iff.2 ⟨_, _, ask_eq_ok_iff.2 ⟨listed, rfl⟩, ?_⟩
  refine bind_eq_ok_iff.2 ⟨_, _, ask_eq_ok_iff.2 ⟨read, rfl⟩, ?_⟩
  exact bind_eq_ok_iff.2 ⟨_, _, ask_eq_ok_iff.2 ⟨found, rfl⟩, rfl⟩

/-- A run that compares tells whether nothing is missing, if it can write the reports it is to write. -/
theorem exists_reconcile_eq_ok {settings : Settings} {write : Bool} {c : Comparison}
    (configured : settings.loadConfig (.start fs) = .ok config (.start fs))
    (ruled : settings.loadPolicy config (.start fs) = .ok policy (.start fs))
    (compared : compare config policy schema (.start fs) = .ok c (.start fs))
    (writable : write = true → succeeded (Report.write at_.run c.migration.path c.outcome.filtered
      c.outcome.missing at_.now fs) = true) :
    ∃ t, reconcile at_ settings schema write (.start fs) = .ok c.outcome.missing.isEmpty t := by
  have listed : ∀ s : Session, ∃ t, (if c.outcome.missing.isEmpty = true then pure true else do
      printLines ("" :: missingLines c.outcome.missing)
      pure false : Action Bool) s = .ok c.outcome.missing.isEmpty t := fun s => by
    split
    · rename_i none
      exact ⟨s, by rw [none]; rfl⟩
    · rename_i some
      obtain ⟨t, printed, -⟩ := exists_printLines ("" :: missingLines c.outcome.missing) s
      refine ⟨t, bind_eq_ok_iff.2 ⟨(), t, printed, ?_⟩⟩
      rw [Bool.eq_false_iff.2 some]
      rfl
  have printed : ∀ line s, ∃ t, printLine line s = .ok () t ∧ t.files = s.files := fun _ _ => ⟨_, rfl, rfl⟩
  obtain ⟨s₁, first, files₁⟩ := printed
    ("Reconciled " ++ toString c.folders ++ " backed-up migrations against " ++ c.migration.name) (.start fs)
  obtain ⟨s₂, second, files₂⟩ := printed "" s₁
  obtain ⟨s₃, third, files₃⟩ := exists_printLines (c.outcome.summary.lines true) s₂
  have files : s₃.files = fs := files₃.trans (files₂.trans files₁)
  rw [reconcile]
  refine exists_bind_eq_ok configured (exists_bind_eq_ok ruled (exists_bind_eq_ok compared ?_))
  refine exists_bind_eq_ok first (exists_bind_eq_ok second (exists_bind_eq_ok third ?_))
  dsimp only
  split
  · rename_i asked
    have written := writable asked
    cases result : Report.write at_.run c.migration.path c.outcome.filtered c.outcome.missing at_.now fs with
    | error e fs' =>
      rw [result] at written
      exact nomatch written
    | ok paths fs' =>
      obtain ⟨s₄, told, -⟩ := exists_printLines
        ["", "Wrote " ++ paths.filtered.text, "Wrote " ++ paths.missing.text] { s₃ with files := fs' }
      exact exists_bind_eq_ok (act_eq_ok_iff.2 ⟨fs', files ▸ result, rfl⟩)
        (exists_bind_eq_ok told (listed s₄))
  · exact listed s₃

end Command

end SchemaHistory
