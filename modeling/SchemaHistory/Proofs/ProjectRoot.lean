import SchemaHistory.Config.Basic
import SchemaHistory.Proofs.Files.LastPart

/-!
Where the tool runs, told by the steps of the path of the schema directory.

The tool runs at the path without its last part. That is the directory above the schema directory only if the
last part leads down: two points at the end are dropped like a name, and where there is no part to drop, the
tool runs in the working directory.
-/

namespace SchemaHistory

open FileSystem

namespace Path

variable {p : Path} {l before : List Bytes} {last : Bytes}

/-! ### Two points behind a path -/

theorem steps_join_above (p : Path) : (p.join ⟨above⟩).steps = p.steps ++ [above] :=
  steps_join_eq p ⟨above⟩

theorem isAbsolute_join_above (p : Path) : (p.join ⟨above⟩).isAbsolute = p.isAbsolute :=
  isAbsolute_join_eq p ⟨above⟩

/-- The last part of a path leads down, or it leads from the root to the root. The directory above such a
path is the path without its last part. -/
def LeadsDown (p : Path) : Prop :=
  ∃ before last, p.steps = before ++ [last] ∧ (last = above → p.isAbsolute = true ∧ goal [] before = [])

end Path

namespace FileSystem

open SchemaHistory.Path

variable {p : Path} {before : List Bytes} {last : Bytes}

/-- Every step leads up by no more than one name. -/
theorem length_le_goal (l : Location) (steps : List Bytes) :
    l.length ≤ (goal l steps).length + steps.length := by
  induction steps generalizing l with
  | nil => exact le_rfl
  | cons s rest ih =>
    rw [goal, List.length_cons]
    split
    · have up := ih l.dropLast
      rw [List.length_dropLast] at up
      omega
    · have down := ih (l ++ [s])
      rw [List.length_append] at down
      omega

theorem goalOf_join_above (fs : FileSystem) (p : Path) :
    fs.goalOf (p.join ⟨above⟩) = (fs.goalOf p).dropLast := by
  rw [goalOf, startOf, isAbsolute_join_above, steps_join_above, goal_append]
  rfl

theorem goalOf_projectRoot_of_steps_eq_nil (fs : FileSystem) (none : p.steps = []) :
    fs.goalOf (Config.projectRoot p) = fs.workingDirectory := by
  rw [Config.projectRoot]
  rcases parent?_of_steps_eq_nil none with same | same <;> rw [same] <;> rfl

theorem goalOf_projectRoot_of_steps_eq_concat (fs : FileSystem) (whole : p.steps = before ++ [last]) :
    fs.goalOf (Config.projectRoot p) = goal (fs.startOf p) before := by
  rw [Config.projectRoot]
  rcases parent?_of_steps_eq_concat whole with ⟨same, rfl, relative⟩ | ⟨parent, same, some, rfl, absolute⟩
  · rw [same, startOf, relative]
    rfl
  · rw [same]
    dsimp only
    rw [if_neg (by simp [some]), goalOf, startOf, absolute]
    rfl

end FileSystem

namespace Config

open SchemaHistory.Path

variable {p : Path}

theorem goalOf_projectRoot_of_leadsDown (down : p.LeadsDown) (fs : FileSystem) :
    fs.goalOf (projectRoot p) = fs.goalOf (p.join ⟨above⟩) := by
  obtain ⟨before, last, whole, rooted⟩ := down
  rw [goalOf_projectRoot_of_steps_eq_concat fs whole, goalOf_join_above, goalOf, whole, goal_append]
  by_cases up : last = above
  · obtain ⟨absolute, top⟩ := rooted up
    rw [startOf, if_pos absolute, top, up]
    rfl
  · rw [goal, if_neg up, goal, List.dropLast_concat]

/-- From a directory that is deep enough for no path to lead past the root, all other paths are wrong. -/
theorem goalOf_projectRoot_ne (other : ¬ p.LeadsDown) {fs : FileSystem}
    (deep : p.steps.length < fs.workingDirectory.length) :
    fs.goalOf (projectRoot p) ≠ fs.goalOf (p.join ⟨above⟩) := by
  rw [goalOf_join_above]
  intro same
  rcases List.eq_nil_or_concat' p.steps with none | ⟨before, last, whole⟩
  · have start : (fs.startOf p).length ≤ fs.workingDirectory.length := by
      rw [startOf]
      split
      · exact Nat.zero_le _
      · exact le_rfl
    have shorter := congrArg List.length same
    rw [goalOf_projectRoot_of_steps_eq_nil fs none, List.length_dropLast, goalOf, none, goal] at shorter
    omega
  · have up : last = above := by
      by_contra down
      exact other ⟨before, last, whole, fun up => absurd up down⟩
    rw [goalOf_projectRoot_of_steps_eq_concat fs whole, goalOf, whole, goal_append, up, goal, if_pos rfl,
      goal] at same
    have top : goal (fs.startOf p) before = [] := by
      have shorter := congrArg List.length same
      rw [List.length_dropLast, List.length_dropLast] at shorter
      exact List.length_eq_zero_iff.1 (by omega)
    rw [startOf] at top
    split at top
    · rename_i absolute
      exact other ⟨before, last, whole, fun _ => ⟨absolute, top⟩⟩
    · have within := length_le_goal fs.workingDirectory before
      rw [top, List.length_nil] at within
      rw [whole, List.length_append, List.length_singleton] at deep
      omega

/-- The tool runs in the directory above the schema directory, from every working directory, if and only if
the last part of the schema directory's path leads down, or leads from the root to the root. For every other
path, two points at the end or no part at all, it runs elsewhere from every working directory that is deeper
than the path has parts. -/
theorem projectRoot_above_iff (p : Path) :
    ((∀ fs : FileSystem, fs.goalOf (projectRoot p) = fs.goalOf (p.join ⟨above⟩)) ↔ p.LeadsDown) ∧
    (¬ p.LeadsDown → ∀ fs : FileSystem, p.steps.length < fs.workingDirectory.length →
      fs.goalOf (projectRoot p) ≠ fs.goalOf (p.join ⟨above⟩)) := by
  refine ⟨⟨fun everywhere => ?_, goalOf_projectRoot_of_leadsDown⟩,
    fun other _ => goalOf_projectRoot_ne other⟩
  by_contra other
  have deep : p.steps.length < (List.replicate (p.steps.length + 1) ([0x61] : Bytes)).length := by simp
  exact @goalOf_projectRoot_ne p other ⟨[], _⟩ deep (everywhere _)

/-- The directory above a schema directory that is given by two points is not where the tool runs. -/
theorem not_forall_projectRoot_above :
    ¬ ∀ (fs : FileSystem) (p : Path), fs.goalOf (projectRoot p) = fs.goalOf (p.join ⟨above⟩) :=
  fun everywhere => absurd (everywhere ⟨[], [[0x61], [0x62]]⟩ ⟨above⟩) (by decide)

end Config

end SchemaHistory
