import Mathlib.Order.Defs.Unbundled
import SchemaHistory.Session

/-!
What actions leave behind.

An action takes a state to a state whether it succeeds or not. A relation that every step of an action
keeps is kept by the whole action, as far as it gets.
-/

namespace SchemaHistory

variable {ε ε' σ α β : Type}

/-- The state that a run leaves. -/
def leftBy : EStateM.Result ε σ α → σ
  | .ok _ s => s
  | .error _ s => s

/-- Whether a run succeeded. -/
def succeeded : EStateM.Result ε σ α → Bool
  | .ok _ _ => true
  | .error _ _ => false

theorem exists_eq_error {r : EStateM.Result ε σ α} (failed : succeeded r = false) :
    ∃ e, r = .error e (leftBy r) := by
  cases r with
  | ok => exact nomatch failed
  | error e s => exact ⟨e, rfl⟩

theorem eq_ok_of_succeeded {r : EStateM.Result ε σ Unit} (done : succeeded r = true) :
    r = .ok () (leftBy r) := by
  cases r with
  | ok u s => rfl
  | error => exact nomatch done

/-- A step that is followed by others succeeds, or the run ends with it. -/
theorem bind_eq_ok_iff {x : EStateM ε σ α} {f : α → EStateM ε σ β} {s t : σ} {b : β} :
    (x >>= f) s = .ok b t ↔ ∃ a u, x s = .ok a u ∧ f a u = .ok b t := by
  change EStateM.bind x f s = _ ↔ _
  rw [EStateM.bind]
  cases x s with
  | ok a u =>
    constructor
    · exact fun next => ⟨a, u, rfl, next⟩
    · rintro ⟨_, _, ⟨⟩, next⟩
      exact next
  | error e u => simp

/-- Two steps fail if the first one does, or the second one behind it. -/
theorem bind_eq_error_iff {x : EStateM ε σ α} {f : α → EStateM ε σ β} {s t : σ} {e : ε} :
    (x >>= f) s = .error e t ↔ x s = .error e t ∨ ∃ a u, x s = .ok a u ∧ f a u = .error e t := by
  change EStateM.bind x f s = _ ↔ _
  rw [EStateM.bind]
  cases x s with
  | ok a u =>
    constructor
    · exact fun next => Or.inr ⟨a, u, rfl, next⟩
    · rintro (⟨⟨⟩⟩ | ⟨_, _, ⟨⟩, next⟩)
      exact next
  | error e' u => simp

/-- What is done about an error is done in the state that the error left. -/
theorem tryCatch_apply (x : EStateM ε σ α) (handle : ε → EStateM ε σ α) (s : σ) :
    tryCatch x handle s = match x s with
      | .ok a t => .ok a t
      | .error e t => handle e t := by
  change EStateM.tryCatch x handle s = _
  delta EStateM.tryCatch
  cases x s <;> rfl

theorem tryCatch_eq_ok_iff {x : EStateM ε σ α} {handle : ε → EStateM ε σ α} {s t : σ} {a : α} :
    tryCatch x handle s = .ok a t ↔ x s = .ok a t ∨ ∃ e u, x s = .error e u ∧ handle e u = .ok a t := by
  rw [tryCatch_apply]
  cases x s with
  | ok b u => simp
  | error e u =>
    constructor
    · exact fun handled => Or.inr ⟨e, u, rfl, handled⟩
    · rintro (⟨⟨⟩⟩ | ⟨_, _, ⟨⟩, handled⟩)
      exact handled

theorem forM_cons_eq_ok_iff {f : α → EStateM ε σ PUnit} {a : α} {l : List α} {s t : σ} {u : PUnit} :
    (a :: l).forM f s = .ok u t ↔ ∃ u' s', f a s = .ok u' s' ∧ l.forM f s' = .ok u t :=
  bind_eq_ok_iff

theorem exists_of_forM_eq_error {f : α → EStateM ε σ PUnit} {l : List α} {s t : σ} {e : ε}
    (failed : l.forM f s = .error e t) : ∃ a ∈ l, ∃ u, f a u = .error e t := by
  induction l generalizing s with
  | nil => exact nomatch failed
  | cons a rest ih =>
    rcases bind_eq_error_iff.1 failed with first | ⟨_, u, -, later⟩
    · exact ⟨a, List.mem_cons_self, s, first⟩
    · obtain ⟨b, member, found⟩ := ih later
      exact ⟨b, List.mem_cons_of_mem a member, found⟩

theorem leftBy_adaptExcept (x : EStateM ε σ α) (f : ε → ε') (s : σ) :
    leftBy (x.adaptExcept f s) = leftBy (x s) := by
  rw [EStateM.adaptExcept]
  cases x s <;> rfl

theorem adaptExcept_eq_ok_iff {x : EStateM ε σ α} {f : ε → ε'} {s t : σ} {a : α} :
    x.adaptExcept f s = .ok a t ↔ x s = .ok a t := by
  rw [EStateM.adaptExcept]
  cases x s <;> simp

theorem adaptExcept_eq_error_iff {x : EStateM ε σ α} {f : ε → ε'} {s t : σ} {e' : ε'} :
    x.adaptExcept f s = .error e' t ↔ ∃ e, x s = .error e t ∧ f e = e' := by
  rw [EStateM.adaptExcept]
  cases x s with
  | ok a u => simp
  | error e u =>
    constructor
    · rintro ⟨⟩
      exact ⟨e, rfl, rfl⟩
    · rintro ⟨_, ⟨⟩, rfl⟩
      rfl

theorem exists_of_adaptExcept_eq_error {x : EStateM ε σ α} {f : ε → ε'} {s t : σ} {e' : ε'}
    (failed : x.adaptExcept f s = .error e' t) : ∃ e, x s = .error e t :=
  (adaptExcept_eq_error_iff.1 failed).imp fun _ => And.left

/-! ### Relations that actions keep -/

section Relation

variable {R : σ → σ → Prop} [IsPreorder σ R] {x : EStateM ε σ α} {f : α → EStateM ε σ β} {s : σ}

/-- A relation holds of the states before and after two steps if it holds of each step that is taken. -/
theorem related_bind (first : R s (leftBy (x s)))
    (second : ∀ a t, x s = .ok a t → R t (leftBy (f a t))) : R s (leftBy ((x >>= f) s)) := by
  change R s (leftBy (EStateM.bind x f s))
  rw [EStateM.bind]
  cases result : x s with
  | ok a t =>
    rw [result] at first
    exact trans_of R first (second a t result)
  | error e t =>
    rw [result] at first
    exact first

/-- The same of a step and of what is done if it fails. -/
theorem related_tryCatch {handle : ε → EStateM ε σ α} (first : R s (leftBy (x s)))
    (second : ∀ e t, x s = .error e t → R t (leftBy (handle e t))) :
    R s (leftBy (tryCatch x handle s)) := by
  rw [tryCatch_apply]
  cases result : x s with
  | ok a t => rwa [result] at first
  | error e t =>
    rw [result] at first
    exact trans_of R first (second e t result)

variable (R) in
/-- The action leads from every state to one that is related to it. -/
def Keeps (x : EStateM ε σ α) : Prop := ∀ s, R s (leftBy (x s))

namespace Keeps

theorem pure (a : α) : Keeps R (Pure.pure a : EStateM ε σ α) := refl_of R

theorem throw (e : ε) : Keeps R (throw e : EStateM ε σ α) := refl_of R

theorem get : Keeps R (MonadState.get : EStateM ε σ σ) := refl_of R

theorem bind (first : Keeps R x) (second : ∀ a, Keeps R (f a)) : Keeps R (x >>= f) := fun s =>
  related_bind (first s) fun a t _ => second a t

theorem tryCatch {handle : ε → EStateM ε σ α} (first : Keeps R x) (second : ∀ e, Keeps R (handle e)) :
    Keeps R (tryCatch x handle) := fun s =>
  related_tryCatch (first s) fun e t _ => second e t

theorem forM {l : List α} {f : α → EStateM ε σ PUnit} (each : ∀ a ∈ l, Keeps R (f a)) :
    Keeps R (l.forM f) := by
  induction l with
  | nil => exact pure _
  | cons a rest ih =>
    rw [List.forall_mem_cons] at each
    exact bind each.1 fun _ => ih each.2

omit [IsPreorder σ R] in
theorem adaptExcept (kept : Keeps R x) (f : ε → ε') : Keeps R (x.adaptExcept f) := by
  intro s
  rw [leftBy_adaptExcept]
  exact kept s

end Keeps

end Relation

/-! ### Steps of a session -/

namespace Session

variable {s t : Session} {activity : Activity}

theorem ask_eq_ok_iff {f : FileSystem → Except Failure α} {a : α} :
    ask activity f s = .ok a t ↔ f s.files = .ok a ∧ t = s := by
  rw [ask]
  cases f s.files with
  | ok b => simp [eq_comm]
  | error e => simp

theorem act_eq_ok_iff {x : FileSystem.Action Failure α} {a : α} :
    act activity x s = .ok a t ↔ ∃ files, x s.files = .ok a files ∧ t = { s with files } := by
  rw [act, EStateM.run]
  cases x s.files with
  | ok b files =>
    constructor
    · rintro ⟨⟩
      exact ⟨files, rfl, rfl⟩
    · rintro ⟨_, ⟨⟩, rfl⟩
      rfl
  | error e files => simp

theorem files_of_call {tool : Tool} {step : ToolStep} {u : Unit} (called : call tool step s = .ok u t) :
    t.files = (tool.run step s.files).1.files := by
  simp only [call] at called
  split at called
  · cases called
    rfl
  · exact nomatch called

/-- Printing changes no files. -/
theorem exists_printLines (lines : List String) (s : Session) :
    ∃ t, printLines lines s = .ok () t ∧ t.files = s.files := by
  induction lines generalizing s with
  | nil => exact ⟨s, rfl, rfl⟩
  | cons line rest ih =>
    obtain ⟨t, printed, same⟩ := ih { s with output := s.output ++ Bytes.ofString (line ++ "\n") }
    exact ⟨t, printed, same⟩

end Session

end SchemaHistory
