import SchemaHistory.Config.Reader
import SchemaHistory.Proofs.Files.LastPart
import SchemaHistory.Proofs.Text.Shown

/-!
When the backup is kept apart from the migrations.

Two paths are told apart here by what they mean: whether they start at the root, and their steps. A
configuration is refused if its two directories are written alike, and a directory can be written in many
ways.
-/

namespace SchemaHistory

namespace Path

variable {p m b : Path}

/-- What a path means whatever it leads through: whether it starts at the root, and its steps. Slashes that
are repeated or at the end do not count, nor do points that stay in a directory. -/
def normal (p : Path) : Bool × List Bytes := (p.isAbsolute, p.steps)

/-- A relative path that is the end of an absolute one, so that the two are the same behind a directory on
the way of the latter. -/
def Ends (part whole : Path) : Prop :=
  part.isAbsolute = false ∧ whole.isAbsolute = true ∧ part.steps <:+ whole.steps

instance (part whole : Path) : Decidable (Ends part whole) :=
  inferInstanceAs (Decidable (_ ∧ _ ∧ _))

theorem normal_join_of_isAbsolute (absolute : m.isAbsolute = true) (p : Path) :
    (p.join m).normal = m.normal := by
  rw [normal, isAbsolute_join_eq, steps_join_eq, if_pos absolute, absolute, Bool.true_or, normal, absolute]

theorem normal_join_of_relative (relative : m.isAbsolute = false) (p : Path) :
    (p.join m).normal = (p.isAbsolute, p.steps ++ m.steps) := by
  rw [normal, isAbsolute_join_eq, steps_join_eq, relative, Bool.false_or, if_neg Bool.false_ne_true]

theorem notMem_of_mem_steps {s : Bytes} (member : s ∈ p.steps) : slash ∉ s :=
  notMem_of_mem_pieces (List.mem_filter.1 member).1

/-- Where a path is the end of another one, there is a path to the place it starts from. -/
theorem exists_isAbsolute_of_suffix (ends : m.steps <:+ b.steps) :
    ∃ p : Path, p.isAbsolute = true ∧ p.steps ++ m.steps = b.steps := by
  obtain ⟨before, whole⟩ := ends
  have kept : ∀ s ∈ before, s ∈ b.steps := fun s member => whole ▸ List.mem_append_left _ member
  have absent : ∀ s ∈ ([] : Bytes) :: [] :: before, slash ∉ s := by
    simp only [List.forall_mem_cons, List.not_mem_nil, not_false_eq_true, true_and]
    exact fun s member => notMem_of_mem_steps (kept s member)
  refine ⟨ofSegments ([] :: [] :: before), isAbsolute_ofSegments List.not_mem_nil, ?_⟩
  have steps : before.filter (fun s => !isTrivial s) = before :=
    List.filter_eq_self.2 fun s member => (List.mem_filter.1 (kept s member)).2
  rw [steps_ofSegments absent, List.filter_cons_of_neg (by decide),
    List.filter_cons_of_neg (by decide), steps, whole]

/-- Two paths mean the same behind some directory if they mean the same, or if one is the end of
the other. -/
theorem exists_normal_join_eq_iff (m b : Path) :
    (∃ p : Path, (p.join m).normal = (p.join b).normal) ↔ m.normal = b.normal ∨ Ends m b ∨ Ends b m := by
  have mixed : ∀ {m b : Path}, m.isAbsolute = false → b.isAbsolute = true →
      ((∃ p : Path, (p.join m).normal = (p.join b).normal) ↔ Ends m b) := by
    intro m b relative absolute
    constructor
    · rintro ⟨p, same⟩
      rw [normal_join_of_relative relative, normal_join_of_isAbsolute absolute, normal,
        Prod.mk.injEq] at same
      exact ⟨relative, absolute, p.steps, same.2⟩
    · rintro ⟨-, -, ends⟩
      obtain ⟨p, rooted, whole⟩ := exists_isAbsolute_of_suffix ends
      refine ⟨p, ?_⟩
      rw [normal_join_of_relative relative, normal_join_of_isAbsolute absolute, normal, rooted, whole,
        absolute]
  cases first : m.isAbsolute <;> cases second : b.isAbsolute
  case false.false =>
    have apart : ¬ Ends m b ∧ ¬ Ends b m := by simp [Ends, first, second]
    simp only [normal_join_of_relative first, normal_join_of_relative second, apart, or_false]
    simp [normal, first, second]
  case false.true =>
    have apart : m.normal ≠ b.normal ∧ ¬ Ends b m := by simp [normal, Ends, first, second]
    rw [mixed first second, or_iff_right apart.1, or_iff_left apart.2]
  case true.false =>
    have apart : m.normal ≠ b.normal ∧ ¬ Ends m b := by simp [normal, Ends, first, second]
    rw [or_iff_right apart.1, or_iff_right apart.2, ← mixed second first]
    exact exists_congr fun p => eq_comm
  case true.true =>
    have apart : ¬ Ends m b ∧ ¬ Ends b m := by simp [Ends, first, second]
    simp only [normal_join_of_isAbsolute first, normal_join_of_isAbsolute second, apart, or_false,
      exists_const]

/-- Of two relative paths, or two absolute ones, each is another path behind a directory. -/
theorem join_injective_of_isAbsolute_eq (alike : m.isAbsolute = b.isAbsolute) (same : p.join m = p.join b) :
    m = b := by
  obtain ⟨m⟩ := m
  obtain ⟨b⟩ := b
  rw [join, join, alike] at same
  split at same
  · exact same
  · refine congrArg Path.mk ?_
    split at same
    · exact List.append_cancel_left (congrArg bytes same)
    · exact List.cons_injective (List.append_cancel_left (congrArg bytes same))

end Path

/-- Paths that mean the same lead to the same directory, whatever links are on their way. -/
theorem FileSystem.leadsTo_iff_of_normal_eq {m b : Path} (same : m.normal = b.normal) (fs : FileSystem)
    (d : Location) : fs.LeadsTo m d ↔ fs.LeadsTo b d := by
  rw [Path.normal, Path.normal, Prod.mk.injEq] at same
  rw [LeadsTo, LeadsTo, startOf, startOf, same.1]
  exact ⟨fun leads => leads.congr same.2.symm, fun leads => leads.congr same.2⟩

namespace Config

open SchemaHistory.Path

variable {text : String} {c : Config}

/-- An accepted configuration has no fault. -/
theorem fault?_of_parse (accepted : parse text = .ok c) : c.fault? = none := by
  rw [parse] at accepted
  split at accepted
  · cases accepted
  · split at accepted
    · cases accepted
    · rename_i sound
      exact Except.ok.inj accepted ▸ sound

theorem directories_ne_of_parse (accepted : parse text = .ok c) :
    c.migrationsDirectory ≠ c.backupDirectory := by
  have sound := fault?_of_parse accepted
  rw [fault?] at sound
  split at sound
  · cases sound
  · split at sound
    · cases sound
    · rename_i other
      simpa using other

/-- Behind every schema directory, the two directories of an accepted configuration are at different paths
if and only if they do not mean the same, and neither is the end of the other. Otherwise the two paths lead
to the same directory for some schema directory. What is checked is less: the two paths are written
differently, and this only if both directories are relative or both are absolute. -/
theorem paths_apart_iff (accepted : parse text = .ok c) :
    ((∀ p, (c.migrationsPath p).normal ≠ (c.backupPath p).normal) ↔
      (ofString c.migrationsDirectory).normal ≠ (ofString c.backupDirectory).normal ∧
      ¬ Ends (ofString c.migrationsDirectory) (ofString c.backupDirectory) ∧
      ¬ Ends (ofString c.backupDirectory) (ofString c.migrationsDirectory)) ∧
    (∀ p, (c.migrationsPath p).normal = (c.backupPath p).normal →
      ∀ (fs : FileSystem) (d : Location), fs.LeadsTo (c.migrationsPath p) d ↔
        fs.LeadsTo (c.backupPath p) d) ∧
    ((ofString c.migrationsDirectory).isAbsolute = (ofString c.backupDirectory).isAbsolute →
      ∀ p, c.migrationsPath p ≠ c.backupPath p) := by
  refine ⟨?apart, fun p => FileSystem.leadsTo_iff_of_normal_eq, fun alike p same => ?written⟩
  case apart =>
    rw [← not_exists, ← not_or, ← not_or, ← exists_normal_join_eq_iff]
    rfl
  case written =>
    have written := join_injective_of_isAbsolute_eq alike same
    exact directories_ne_of_parse accepted (Bytes.ofString_injective (congrArg bytes written))

/-- A backup that is named like the last part of the migrations' path. -/
def sharingLastPart : Config :=
  { standard with migrationsDirectory := "/srv/db//m", backupDirectory := "m/" }

theorem parse_sharingLastPart : parse "migrations_dir: /srv/db//m\nbackup_dir: m/" = .ok sharingLastPart :=
  eq_ok_of_toOption (by decide +kernel)

theorem paths_apart_iff_sharingLastPart :
    parse "migrations_dir: /srv/db//m\nbackup_dir: m/" = .ok sharingLastPart ∧
    ¬ ∀ p, (sharingLastPart.migrationsPath p).normal ≠ (sharingLastPart.backupPath p).normal := by
  refine ⟨parse_sharingLastPart, fun apart => ?_⟩
  exact absurd ((paths_apart_iff parse_sharingLastPart).1.1 apart) (by decide)

/-- A slash at the end is enough for the backup to be where the migrations are. -/
theorem not_forall_paths_apart :
    ¬ ∀ (text : String) (c : Config), parse text = .ok c →
      ∀ p, (c.migrationsPath p).normal ≠ (c.backupPath p).normal := by
  intro apart
  have accepted : parse "backup_dir: migrations/" = .ok { standard with backupDirectory := "migrations/" } :=
    eq_ok_of_toOption (by decide +kernel)
  exact apart _ _ accepted (ofString "prisma") (by decide)

end Config

end SchemaHistory
