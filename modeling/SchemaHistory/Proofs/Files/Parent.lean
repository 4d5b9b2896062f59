import SchemaHistory.Proofs.Files.Unlinked

/-!
Names behind a path that ends in a name.

Such a path is the parent of the paths that put a name behind it, and the name at their end can be
exchanged. Where it leads to a directory, there is none to be made.
-/

namespace SchemaHistory

open FileSystem

namespace Path

variable {p : Path} {name x y : Bytes}

theorem ofSegments_segments (p : Path) : ofSegments p.segments = p :=
  congrArg Path.mk (intercalate_pieces slash p.bytes)

theorem dropTrivialEnd_concat (isName : IsName name) (l : List Bytes) :
    dropTrivialEnd (l ++ [name]) = l ++ [name] := by
  rw [dropTrivialEnd, List.reverse_append, List.reverse_singleton, List.singleton_append,
    List.dropWhile_cons_of_neg (by simp [isName.notTrivial]), List.reverse_cons, List.reverse_reverse]

theorem segments_join_join (p : Path) (isName : IsName name) (isName' : IsName x) :
    ((p.join ⟨name⟩).join ⟨x⟩).segments = (p.join ⟨name⟩).segments ++ [x] := by
  have ends := p.endsInSlash_join isName
  rcases (p.join ⟨name⟩).join_cases isName' with ⟨empty, -⟩ | ⟨b, slashed, -⟩ | ⟨-, same⟩
  · obtain ⟨before, whole, -⟩ := p.exists_segments_join isName
    rw [empty, ← List.nil_append [name]] at whole
    cases before with
    | nil => exact absurd (List.cons.inj whole).1.symm isName.ne_nil
    | cons first before => simp [segments, pieces] at whole
  · rw [slashed] at ends
    simp [endsInSlash] at ends
  · rw [same, segments_append_slash, segments_of_isName isName']

theorem parent?_join (p : Path) (isName : IsName name) (isName' : IsName x) :
    ((p.join ⟨name⟩).join ⟨x⟩).parent? = some (p.join ⟨name⟩) := by
  obtain ⟨before, whole, -⟩ := p.exists_segments_join isName
  have again := ofSegments_segments (p.join ⟨name⟩)
  rw [whole] at again
  rw [parent?, p.segments_join_join isName isName', whole]
  cases before with
  | nil =>
    have last := dropTrivialEnd_concat isName' []
    rw [List.nil_append] at last again
    rw [List.nil_append, List.singleton_append]
    dsimp only
    rw [last, ← again]
    change some (if name.isEmpty = true then _ else _) = _
    rw [if_neg (by simpa using isName.ne_nil)]
    simp [ofSegments]
  | cons first rest =>
    rw [List.cons_append, List.cons_append]
    dsimp only
    rw [dropTrivialEnd_concat isName', List.reverse_append, List.reverse_singleton, List.singleton_append]
    dsimp only
    rw [List.reverse_reverse, dropTrivialEnd_concat isName, ← again]
    cases rest <;> rfl

theorem fileName?_join (p : Path) (isName : IsName name) (isName' : IsName x) :
    ((p.join ⟨name⟩).join ⟨x⟩).fileName? = some x := by
  obtain ⟨first, rest, whole⟩ : ∃ first rest, (p.join ⟨name⟩).segments = first :: rest := by
    obtain ⟨before, whole, -⟩ := p.exists_segments_join isName
    cases before with
    | nil => exact ⟨_, _, whole⟩
    | cons first rest => exact ⟨_, _, whole⟩
  simp [fileName?, p.segments_join_join isName isName', whole, dropTrivialEnd_concat isName',
    isName'.notTrivial, isName'.notAbove]

theorem withFileName_join (p : Path) (isName : IsName name) (isName' : IsName x) (y : Bytes) :
    ((p.join ⟨name⟩).join ⟨x⟩).withFileName y = (p.join ⟨name⟩).join ⟨y⟩ := by
  rw [withFileName, fileName?_join p isName isName', parent?_join p isName isName']
  rfl

end Path

namespace FileSystem

open SchemaHistory.Path FileSystem.Action

variable {fs fs' : FileSystem} {p : Path} {name : Bytes}

/-- Where a directory is, none is made. -/
theorem unchanged_of_makeDirectories {u : Unit} (isName : IsName name) (opens : fs.Opens (p.join ⟨name⟩))
    (home : fs.entry? (fs.goalOf p) = some .directory) (fits : (p.join ⟨name⟩).Fits)
    (made : makeDirectories (p.join ⟨name⟩) fs = .ok u fs') : fs' = fs := by
  obtain ⟨before, short, there⟩ := (opens_join_iff isName).1 opens
  have slot := (slotOf_join_eq_ok_iff before.noLink isName).2 ⟨fits, before, home, short, rfl⟩
  have named : Slot.isNamed ⟨fs.goalOf p, name, false⟩ = true := Slot.isNamed_of_isName isName
  have refused : change (makeDirectory · (p.join ⟨name⟩)) fs = .error SystemError.alreadyExists fs := by
    rw [change, makeDirectory, slot]
    simp [bind, Except.bind, named, Slot.location, there]
    rfl
  suffices same : ∀ above, fs = leftBy (makeDirectoryIn above (p.join ⟨name⟩) fs) by
    have here := same (p.join ⟨name⟩).parents
    rw [← makeDirectories, made] at here
    exact here.symm
  -- the first attempt is refused, for the directory and for none above it
  have attempt : ∀ {α β : Type} {f : Unit → Action SystemError α}
      {handle : SystemError → Action SystemError α} {next : α → Action SystemError β},
      Keeps Eq (handle .alreadyExists) → (∀ a, Keeps Eq (next a)) →
        fs = leftBy ((tryCatch (change (makeDirectory · (p.join ⟨name⟩)) >>= f) handle >>= next) fs) := by
    intro α β f handle next failed after
    have stopped : (change (makeDirectory · (p.join ⟨name⟩)) >>= f) fs = .error .alreadyExists fs := by
      change EStateM.bind _ f fs = _
      rw [EStateM.bind, refused]
    refine related_bind (R := Eq) (related_tryCatch (by rw [stopped]; rfl) fun e t result => ?_)
      fun a t _ => after a t
    rw [stopped] at result
    cases result
    exact failed fs
  have there : Keeps Eq (do
      if (← MonadState.get).isDirectory (p.join ⟨name⟩) then return (.error () : Except Unit Unit)
      else throw .alreadyExists : Action SystemError (Except Unit Unit)) :=
    keeps_ifDirectory _ (.pure _) (.throw _)
  intro above
  cases above with
  | nil =>
    rw [makeDirectoryIn, if_neg (by simpa [isEmpty] using fits.nonempty)]
    exact attempt there fun r => by cases r <;> exact .pure _
  | cons =>
    rw [makeDirectoryIn, if_neg (by simpa [isEmpty] using fits.nonempty)]
    exact attempt there fun r => by cases r <;> exact .pure _

end FileSystem

end SchemaHistory
