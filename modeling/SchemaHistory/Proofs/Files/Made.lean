import SchemaHistory.Proofs.Files.LastPart

/-!
Where directories are made.

A path without links puts a directory on its own way, and the paths above it have their ways within that.
So the directories that are made for a path are on its way, all of them, and nothing else changes.
-/

namespace SchemaHistory

open FileSystem

namespace Path

variable {p q : Path}

/-- The paths above a path lead along its first steps, but for the empty one. -/
theorem steps_of_mem_parentsWithin {n : Nat} (member : q ∈ p.parentsWithin n) :
    q = ⟨[]⟩ ∨ q.steps <+: p.steps ∧ q.isAbsolute = p.isAbsolute := by
  induction n generalizing p with
  | zero => exact absurd member List.not_mem_nil
  | succ n ih =>
    -- nothing is above the empty path
    have empty : ∀ n, (⟨[]⟩ : Path).parentsWithin n = [] := fun n => by cases n <;> rfl
    have last : p.parent? = some ⟨[]⟩ → q = ⟨[]⟩ := fun found => by
      rw [parentsWithin, found] at member
      dsimp only at member
      rwa [empty, List.mem_singleton] at member
    rcases List.eq_nil_or_concat' p.steps with none | ⟨before, s, whole⟩
    · rcases parent?_of_steps_eq_nil none with root | found
      · rw [parentsWithin, root] at member
        exact absurd member List.not_mem_nil
      · exact Or.inl (last found)
    · rcases parent?_of_steps_eq_concat whole with ⟨found, -⟩ | ⟨parent, found, -, steps, absolute⟩
      · exact Or.inl (last found)
      · rw [parentsWithin, found] at member
        have shorter : parent.steps <+: p.steps := by
          rw [steps, whole]
          exact List.prefix_append _ _
        rcases List.mem_cons.1 member with rfl | above
        · exact Or.inr ⟨shorter, absolute⟩
        · exact (ih above).imp id fun ⟨first, same⟩ => ⟨first.trans shorter, same.trans absolute⟩

end Path

namespace FileSystem

open SchemaHistory.Path FileSystem.Action

variable {fs fs' : FileSystem} {p q : Path} {k : Location}

theorem wayOf_subset {p' : Path} (first : p'.steps <+: p.steps) (same : p'.isAbsolute = p.isAbsolute) :
    fs.wayOf p' ⊆ fs.wayOf p := by
  obtain ⟨rest, whole⟩ := first
  rw [wayOf, wayOf, startOf, startOf, same, ← whole, way_append]
  exact List.subset_append_left _ _

/-- Where a path without links puts an entry is on its way. -/
theorem mem_wayOf_of_slotOf {slot : Slot} (noLink : ∀ k ∈ fs.wayOf p, ∀ t, fs.entry? k ≠ some (.link t))
    (found : fs.slotOf p = .ok slot) (named : slot.isNamed = true) : slot.location ∈ fs.wayOf p := by
  obtain ⟨isName, before, last, leads, -⟩ := slotOf_named found named
  rw [wayOf, steps_of_dropWhile_isEmpty last isName.notTrivial, way_append] at noLink ⊢
  obtain ⟨walked, home⟩ := leads_iff_walk.1 leads
  obtain ⟨follow, walk⟩ := fs.walk_eq_walkWith true linkLimit
  rw [walk] at walked
  obtain ⟨-, whole⟩ := walkable_of_walkWith (fun k member => noLink k (List.mem_append_left _ member))
    walked home
  refine List.mem_append_right _ ?_
  rw [← whole, way, if_neg isName.notAbove]
  exact List.mem_cons_self

/-- Directories are made on the way of a path where nothing was, and nothing else changes. -/
structure GrownAlong (q : Path) (fs fs' : FileSystem) : Prop extends Grown fs fs' where
  onWay : ∀ k, fs.entry? k = none → fs'.entry? k ≠ none → k ∈ fs.wayOf q

/-- No other directories are made than those on the way of a path, if that is free of links. -/
def GrowsAlong (q : Path) (fs fs' : FileSystem) : Prop := fs.Unlinked q → GrownAlong q fs fs'

instance : IsPreorder FileSystem (GrowsAlong q) where
  refl fs _ := ⟨refl_of Grown fs, fun _ nothing made => absurd nothing made⟩
  trans fs fs' fs'' first second := fun unlinked => by
    have grown := first unlinked
    have grown' := second (grown.unlinked unlinked)
    refine ⟨trans_of Grown grown.toGrown grown'.toGrown, fun k nothing made => ?_⟩
    by_cases before : fs'.entry? k = none
    · rw [← wayOf_congr grown.workingDirectory]
      exact grown'.onWay k before made
    · exact grown.onWay k nothing before

theorem growsAlong_makeDirectory (inside : p = ⟨[]⟩ ∨ p.steps <+: q.steps ∧ p.isAbsolute = q.isAbsolute)
    (made : fs.makeDirectory p = .ok fs') : GrowsAlong q fs fs' := by
  intro unlinked
  refine ⟨.of_makeDirectory made, fun k nothing there => ?_⟩
  obtain ⟨slot, found, named, -, rfl⟩ := makeDirectory_eq_ok made
  obtain ⟨first, same⟩ := inside.resolve_left fun empty => by
    subst empty
    exact nomatch found
  have within : fs.wayOf p ⊆ fs.wayOf q := wayOf_subset first same
  have here : k = slot.location := by
    by_contra other
    rw [entry?_put (by simp [Slot.location]), if_neg other] at there
    exact there nothing
  rw [here]
  exact within (mem_wayOf_of_slotOf (fun k member => unlinked.onWay k (within member)) found named)

/-- The directories that are made for a path are on its way, whether all are made or not. -/
theorem grownAlong_makeDirectories (unlinked : fs.Unlinked q) :
    GrownAlong q fs (leftBy (makeDirectories q fs)) := by
  refine keeps_makeDirectoryIn (R := GrowsAlong q) q.parents q (fun p member fs fs' made => ?_) fs unlinked
  refine growsAlong_makeDirectory ?_ made
  rcases List.mem_cons.1 member with rfl | above
  · exact Or.inr ⟨List.prefix_rfl, rfl⟩
  · exact steps_of_mem_parentsWithin above

end FileSystem

end SchemaHistory
