import SchemaHistory.Proofs.Files.Change
import SchemaHistory.Proofs.Text.Pieces

/-!
Where a path leads when no link is on its way.

A path is then read step by step: a name leads down, two points lead up. It can be walked to its end if
every name on its way leads to a directory, and a name behind it is looked up there.
-/

namespace SchemaHistory

namespace Path

variable {p : Path} {name : Bytes}

/-- Bytes that can name an entry: no segment with another meaning, and no slash. -/
structure IsName (name : Bytes) : Prop where
  notTrivial : isTrivial name = false
  notAbove : name ≠ above
  whole : slash ∉ name

theorem IsName.ne_nil (isName : IsName name) : name ≠ [] := by
  rintro rfl
  exact nomatch isName.notTrivial

instance (name : Bytes) : Decidable (IsName name) :=
  decidable_of_iff (isTrivial name = false ∧ name ≠ above ∧ slash ∉ name)
    ⟨fun ⟨first, second, third⟩ => ⟨first, second, third⟩, fun h => ⟨h.1, h.2, h.3⟩⟩

/-- The segments that lead from one place to another. -/
def steps (p : Path) : List Bytes := p.segments.filter fun s => !isTrivial s

/-! ### A name behind a path -/

theorem segments_append_slash (a b : Bytes) :
    segments ⟨a ++ slash :: b⟩ = segments ⟨a⟩ ++ segments ⟨b⟩ :=
  pieces_append_cons (by rfl) a b

theorem steps_append_slash (a b : Bytes) : steps ⟨a ++ slash :: b⟩ = steps ⟨a⟩ ++ steps ⟨b⟩ := by
  rw [steps, segments_append_slash, List.filter_append]
  rfl

/-- The steps of a path that is put behind another one, which an absolute path takes the place of. -/
theorem steps_join_eq (p n : Path) :
    (p.join n).steps = if n.isAbsolute then n.steps else p.steps ++ n.steps := by
  rw [join]
  cases absolute : n.isAbsolute with
  | true => rfl
  | false =>
    rw [Bool.false_or, if_neg Bool.false_ne_true]
    split
    · rename_i empty
      obtain ⟨bytes⟩ := p
      obtain rfl : bytes = [] := List.isEmpty_iff.1 empty
      rfl
    · split
      · rename_i ends
        obtain ⟨before, whole⟩ := List.getLast?_eq_some_iff.1 (eq_of_beq ends)
        have trailing : p.steps = steps ⟨before⟩ := by
          rw [steps, segments, whole, ← segments, ← steps, steps_append_slash]
          exact List.append_nil _
        rw [whole, List.append_assoc, List.singleton_append, steps_append_slash, trailing]
      · exact steps_append_slash _ _

theorem isAbsolute_join_eq (p n : Path) : (p.join n).isAbsolute = (n.isAbsolute || p.isAbsolute) := by
  rw [join]
  cases absolute : n.isAbsolute with
  | true => exact absolute
  | false =>
    rw [Bool.false_or, Bool.false_or]
    split
    · rename_i empty
      obtain ⟨bytes⟩ := p
      obtain rfl : bytes = [] := List.isEmpty_iff.1 empty
      exact absolute
    · rename_i nonempty
      have some : p.bytes ≠ [] := fun none => nonempty (List.isEmpty_iff.2 none)
      split <;> rw [isAbsolute, isAbsolute, List.head?_append_of_ne_nil _ some]

theorem segments_of_isName (isName : IsName name) : segments ⟨name⟩ = [name] :=
  pieces_of_notMem isName.whole

theorem isAbsolute_of_isName (isName : IsName name) : isAbsolute ⟨name⟩ = false := by
  rw [isAbsolute, beq_eq_false_iff_ne]
  exact fun first => isName.whole (List.mem_of_mem_head? first)

/-- The three ways in which a name is put behind a path. -/
theorem join_cases (p : Path) (isName : IsName name) :
    p = ⟨[]⟩ ∧ p.join ⟨name⟩ = ⟨name⟩ ∨
    (∃ b, p = ⟨b ++ [slash]⟩ ∧ p.join ⟨name⟩ = ⟨b ++ slash :: name⟩) ∨
    p.bytes ≠ [] ∧ p.join ⟨name⟩ = ⟨p.bytes ++ slash :: name⟩ := by
  obtain ⟨bytes⟩ := p
  rw [join, isAbsolute_of_isName isName, Bool.false_or]
  split
  · rename_i empty
    obtain rfl : bytes = [] := List.isEmpty_iff.1 empty
    exact Or.inl ⟨rfl, rfl⟩
  · rename_i nonempty
    split
    · rename_i ends
      obtain ⟨b, rfl⟩ := List.getLast?_eq_some_iff.1 (eq_of_beq ends)
      exact Or.inr (Or.inl ⟨b, rfl, by simp⟩)
    · exact Or.inr (Or.inr ⟨fun empty => nonempty (List.isEmpty_iff.2 empty), rfl⟩)

theorem exists_segments_join (p : Path) (isName : IsName name) :
    ∃ before, (p.join ⟨name⟩).segments = before ++ [name] ∧
      before.filter (fun s => !isTrivial s) = p.steps := by
  rcases p.join_cases isName with ⟨rfl, same⟩ | ⟨b, rfl, same⟩ | ⟨-, same⟩
  · exact ⟨[], by rw [same, segments_of_isName isName]; rfl, rfl⟩
  · refine ⟨segments ⟨b⟩, by rw [same, segments_append_slash, segments_of_isName isName], ?_⟩
    rw [steps, segments_append_slash, List.filter_append]
    exact (List.append_nil _).symm
  · exact ⟨p.segments, by rw [same, segments_append_slash, segments_of_isName isName], rfl⟩

theorem steps_join (p : Path) (isName : IsName name) : (p.join ⟨name⟩).steps = p.steps ++ [name] := by
  have single : steps ⟨name⟩ = [name] := by
    rw [steps, segments_of_isName isName, List.filter_singleton, isName.notTrivial]
    rfl
  rw [steps_join_eq, isAbsolute_of_isName isName, if_neg Bool.false_ne_true, single]

theorem isAbsolute_join (p : Path) (isName : IsName name) :
    (p.join ⟨name⟩).isAbsolute = p.isAbsolute := by
  rw [isAbsolute_join_eq, isAbsolute_of_isName isName, Bool.false_or]

theorem endsInSlash_join (p : Path) (isName : IsName name) : (p.join ⟨name⟩).endsInSlash = false := by
  have ends : ∀ b : Bytes, endsInSlash ⟨b ++ name⟩ = false := fun b => by
    rw [endsInSlash, List.getLast?_append_of_ne_nil _ isName.ne_nil, beq_eq_false_iff_ne]
    exact fun last => isName.whole (List.mem_of_mem_getLast? last)
  rcases p.join_cases isName with ⟨rfl, same⟩ | ⟨b, rfl, same⟩ | ⟨-, same⟩
  · rw [same]
    exact ends []
  · rw [same, List.append_cons]
    exact ends _
  · rw [same, List.append_cons]
    exact ends _

/-! ### Paths that can be looked up -/

/-- A path that is neither empty nor too long, and free of the byte zero. -/
structure Fits (p : Path) : Prop where
  noNul : (0 : UInt8) ∉ p.bytes
  nonempty : p.bytes ≠ []
  short : p.bytes.length < FileSystem.pathLimit

theorem exists_bytes_join (p : Path) (isName : IsName name) : ∃ between : Bytes,
    (0 : UInt8) ∉ between ∧ (p.join ⟨name⟩).bytes = p.bytes ++ (between ++ name) := by
  rcases p.join_cases isName with ⟨rfl, same⟩ | ⟨b, rfl, same⟩ | ⟨-, same⟩
  · exact ⟨[], List.not_mem_nil, by rw [same]; rfl⟩
  · exact ⟨[], List.not_mem_nil, by rw [same]; simp⟩
  · exact ⟨[slash], by decide, by rw [same]; rfl⟩

theorem Fits.of_join (isName : IsName name) (fits : (p.join ⟨name⟩).Fits) (nonempty : p.bytes ≠ []) :
    p.Fits := by
  obtain ⟨between, -, whole⟩ := p.exists_bytes_join isName
  have before : p.bytes <+: (p.join ⟨name⟩).bytes := whole ▸ List.prefix_append _ _
  exact ⟨fun nul => fits.noNul (before.subset nul), nonempty, before.length_le.trans_lt fits.short⟩

theorem Fits.noNul_name (isName : IsName name) (fits : (p.join ⟨name⟩).Fits) : (0 : UInt8) ∉ name := by
  obtain ⟨between, -, whole⟩ := p.exists_bytes_join isName
  exact fun nul => fits.noNul (whole ▸ List.mem_append_right _ (List.mem_append_right _ nul))

theorem fits_join (isName : IsName name) (noNul : (0 : UInt8) ∉ p.bytes) (noNul' : (0 : UInt8) ∉ name)
    (short : (p.join ⟨name⟩).bytes.length < FileSystem.pathLimit) : (p.join ⟨name⟩).Fits := by
  obtain ⟨between, noNul'', whole⟩ := p.exists_bytes_join isName
  refine ⟨?_, ?_, short⟩ <;> rw [whole]
  · simp only [List.mem_append, not_or]
    exact ⟨noNul, noNul'', noNul'⟩
  · simp [isName.ne_nil]

theorem Fits.noNul_path (isName : IsName name) (fits : (p.join ⟨name⟩).Fits) : (0 : UInt8) ∉ p.bytes := by
  obtain ⟨between, -, whole⟩ := p.exists_bytes_join isName
  exact fun nul => fits.noNul (whole ▸ List.mem_append_left _ nul)

theorem segmentsOf_eq_ok_iff {segments : List Bytes} :
    FileSystem.segmentsOf p = .ok segments ↔ p.Fits ∧ segments = p.segments := by
  rw [FileSystem.segmentsOf]
  constructor
  · intro found
    obtain ⟨noNul, found⟩ := guarded_eq_ok_iff.1 found
    obtain ⟨nonempty, found⟩ := guarded_eq_ok_iff.1 found
    obtain ⟨short, found⟩ := guarded_eq_ok_iff.1 found
    refine ⟨⟨by simpa using noNul, fun empty => nonempty (List.isEmpty_iff.2 empty), by simpa using short⟩,
      (Except.ok.inj found).symm⟩
  · rintro ⟨fits, rfl⟩
    rw [if_neg (by simpa using fits.noNul), if_neg (by simpa [isEmpty] using fits.nonempty),
      if_neg (by simpa using fits.short)]

end Path

namespace FileSystem

open SchemaHistory.Path

variable {fs fs' : FileSystem} {l g : Location} {p : Path} {name content : Bytes} {e : Entry}

/-! ### Steps without links -/

/-- Where steps lead from a location. -/
def goal : Location → List Bytes → Location
  | l, [] => l
  | l, s :: rest => if s = above then goal l.dropLast rest else goal (l ++ [s]) rest

/-- The locations that are named by steps on their way. -/
def way : Location → List Bytes → List Location
  | _, [] => []
  | l, s :: rest => if s = above then way l.dropLast rest else (l ++ [s]) :: way (l ++ [s]) rest

theorem goal_append (l : Location) (first second : List Bytes) :
    goal l (first ++ second) = goal (goal l first) second := by
  induction first generalizing l with
  | nil => rfl
  | cons s rest ih =>
    rw [List.cons_append, goal, goal]
    split
    · exact ih _
    · exact ih _

theorem way_append (l : Location) (first second : List Bytes) :
    way l (first ++ second) = way l first ++ way (goal l first) second := by
  induction first generalizing l with
  | nil => rfl
  | cons s rest ih =>
    rw [List.cons_append, way, way, goal]
    split
    · exact ih _
    · rw [ih, List.cons_append]

variable (fs) in
/-- Steps that can be taken from a location, because every name on the way leads to a directory. -/
structure Walkable (l : Location) (steps : List Bytes) : Prop where
  short : ∀ s ∈ steps, s.length ≤ nameLimit
  directories : ∀ k ∈ way l steps, fs.entry? k = some .directory

theorem walkable_append {first second : List Bytes} : fs.Walkable l (first ++ second) ↔
    fs.Walkable l first ∧ fs.Walkable (goal l first) second := by
  constructor
  · rintro ⟨short, directories⟩
    rw [List.forall_mem_append] at short
    rw [way_append, List.forall_mem_append] at directories
    exact ⟨⟨short.1, directories.1⟩, short.2, directories.2⟩
  · rintro ⟨here, there⟩
    refine ⟨List.forall_mem_append.2 ⟨here.short, there.short⟩, ?_⟩
    rw [way_append]
    exact List.forall_mem_append.2 ⟨here.directories, there.directories⟩

theorem walkable_above_cons {rest : List Bytes} :
    fs.Walkable l (above :: rest) ↔ fs.Walkable l.dropLast rest := by
  have sameWay : way l (above :: rest) = way l.dropLast rest := by rw [way, if_pos rfl]
  constructor
  · rintro ⟨short, directories⟩
    exact ⟨(List.forall_mem_cons.1 short).2, sameWay ▸ directories⟩
  · rintro ⟨short, directories⟩
    exact ⟨List.forall_mem_cons.2 ⟨by decide, short⟩, sameWay ▸ directories⟩

theorem walkable_cons {s : Bytes} (named : s ≠ above) {rest : List Bytes} : fs.Walkable l (s :: rest) ↔
    (s.length ≤ nameLimit ∧ fs.entry? (l ++ [s]) = some .directory) ∧ fs.Walkable (l ++ [s]) rest := by
  have longer : way l (s :: rest) = (l ++ [s]) :: way (l ++ [s]) rest := by rw [way, if_neg named]
  constructor
  · rintro ⟨short, directories⟩
    rw [List.forall_mem_cons] at short
    rw [longer, List.forall_mem_cons] at directories
    exact ⟨⟨short.1, directories.1⟩, short.2, directories.2⟩
  · rintro ⟨⟨short, directory⟩, walkable⟩
    refine ⟨List.forall_mem_cons.2 ⟨short, walkable.short⟩, ?_⟩
    rw [longer]
    exact List.forall_mem_cons.2 ⟨directory, walkable.directories⟩

/-! ### Walking -/

section Walking

variable {followLast : Bool} {follow : Location → List Bytes → Except SystemError Location} {s : Bytes}
  {rest : List Bytes}

theorem walkWith_of_trivial (trivial : isTrivial s = true) :
    fs.walkWith followLast follow l (s :: rest) = fs.walkWith followLast follow l rest := by
  rw [walkWith, if_pos trivial]

theorem walkWith_above :
    fs.walkWith followLast follow l (above :: rest) = fs.walkWith followLast follow l.dropLast rest := by
  rw [walkWith, if_neg (by decide), if_pos (by decide)]

/-- A name that can be looked up is passed if it leads to a directory, and may lead to anything at
the end. -/
theorem walkWith_of_name (step : isTrivial s = false) (named : s ≠ above) (short : s.length ≤ nameLimit) :
    fs.walkWith followLast follow l (s :: rest) = match fs.entry? (l ++ [s]) with
      | some .directory => fs.walkWith followLast follow (l ++ [s]) rest
      | some (.link target) =>
        if rest.isEmpty && !followLast then .ok (l ++ [s])
        else follow (if target.isAbsolute then [] else l) (target.segments ++ rest)
      | some (.file _) => if rest.isEmpty then .ok (l ++ [s]) else .error .notDirectory
      | none => if rest.isEmpty then .ok (l ++ [s]) else .error .notFound := by
  rw [walkWith, step, if_neg Bool.false_ne_true, if_neg (by simpa using named)]
  exact if_neg (Nat.not_lt.2 short)

theorem walkWith_of_directory (step : isTrivial s = false) (named : s ≠ above) (short : s.length ≤ nameLimit)
    (directory : fs.entry? (l ++ [s]) = some .directory) :
    fs.walkWith followLast follow l (s :: rest) = fs.walkWith followLast follow (l ++ [s]) rest := by
  rw [walkWith_of_name step named short, directory]

/-- A walk ends where its name leads to no directory. -/
theorem directory_of_walkWith (step : isTrivial s = false) (named : s ≠ above)
    (noLink : ∀ t, fs.entry? (l ++ [s]) ≠ some (.link t))
    (walked : fs.walkWith followLast follow l (s :: rest) = .ok g)
    (further : rest ≠ [] ∨ fs.entry? g = some .directory) :
    s.length ≤ nameLimit ∧ fs.entry? (l ++ [s]) = some .directory := by
  rw [walkWith, step, if_neg Bool.false_ne_true, if_neg (by simpa using named)] at walked
  split at walked
  · exact nomatch walked
  rename_i short
  refine ⟨Nat.not_lt.1 short, ?_⟩
  dsimp only at walked
  split at walked
  case h_1 directory => exact directory
  case h_2 t link => exact absurd link (noLink t)
  all_goals
    split at walked
    · rename_i last
      obtain rfl := Except.ok.inj walked
      exact further.resolve_left fun more => more (List.isEmpty_iff.1 last)
    · exact nomatch walked

theorem walkWith_append {segments : List Bytes}
    (walkable : fs.Walkable l (segments.filter fun s => !isTrivial s)) (rest : List Bytes) :
    fs.walkWith followLast follow l (segments ++ rest) =
      fs.walkWith followLast follow (goal l (segments.filter fun s => !isTrivial s)) rest := by
  induction segments generalizing l with
  | nil => rfl
  | cons s segments ih =>
    rw [List.cons_append]
    cases step : isTrivial s with
    | true =>
      rw [List.filter_cons_of_neg (by simpa using step)] at walkable ⊢
      rw [walkWith_of_trivial step, ih walkable]
    | false =>
      rw [List.filter_cons_of_pos (by simpa using step)] at walkable ⊢
      rw [goal]
      by_cases up : s = above
      · subst up
        rw [if_pos rfl, walkWith_above, ih (walkable_above_cons.1 walkable)]
      · obtain ⟨⟨short, directory⟩, walkable⟩ := (walkable_cons up).1 walkable
        rw [if_neg up, walkWith_of_directory step up short directory, ih walkable]

theorem walkWith_of_walkable {segments : List Bytes}
    (walkable : fs.Walkable l (segments.filter fun s => !isTrivial s)) :
    fs.walkWith followLast follow l segments = .ok (goal l (segments.filter fun s => !isTrivial s)) :=
  calc fs.walkWith followLast follow l segments
    _ = fs.walkWith followLast follow l (segments ++ []) := by rw [List.append_nil]
    _ = .ok (goal l (segments.filter fun s => !isTrivial s)) := walkWith_append walkable []

/-- A walk that meets no link went through directories only, as far as it goes on or ends at one. -/
theorem walkable_of_walkWith_append {segments : List Bytes}
    (noLink : ∀ k ∈ way l (segments.filter fun s => !isTrivial s), ∀ t, fs.entry? k ≠ some (.link t))
    (walked : fs.walkWith followLast follow l (segments ++ rest) = .ok g)
    (further : rest ≠ [] ∨ fs.entry? g = some .directory) :
    fs.Walkable l (segments.filter fun s => !isTrivial s) := by
  induction segments generalizing l with
  | nil => exact ⟨by simp, by simp [way]⟩
  | cons s segments ih =>
    rw [List.cons_append] at walked
    cases step : isTrivial s with
    | true =>
      rw [List.filter_cons_of_neg (by simpa using step)] at noLink ⊢
      rw [walkWith_of_trivial step] at walked
      exact ih noLink walked
    | false =>
      rw [List.filter_cons_of_pos (by simpa using step)] at noLink ⊢
      by_cases up : s = above
      · subst up
        rw [walkWith_above] at walked
        rw [way, if_pos rfl] at noLink
        rw [walkable_above_cons]
        exact ih noLink walked
      · rw [way, if_neg up, List.forall_mem_cons] at noLink
        have next := directory_of_walkWith step up noLink.1 walked
          (further.imp_left fun more empty => more (List.append_eq_nil_iff.1 empty).2)
        rw [walkWith_of_directory step up next.1 next.2] at walked
        exact (walkable_cons up).2 ⟨next, ih noLink.2 walked⟩

theorem walkable_of_walkWith {segments : List Bytes}
    (noLink : ∀ k ∈ way l (segments.filter fun s => !isTrivial s), ∀ t, fs.entry? k ≠ some (.link t))
    (walked : fs.walkWith followLast follow l segments = .ok g) (there : fs.entry? g = some .directory) :
    fs.Walkable l (segments.filter fun s => !isTrivial s) ∧
      g = goal l (segments.filter fun s => !isTrivial s) := by
  have walkable : fs.Walkable l (segments.filter fun s => !isTrivial s) :=
    walkable_of_walkWith_append noLink (by rwa [List.append_nil]) (Or.inr there)
  rw [walkWith_of_walkable walkable] at walked
  exact ⟨walkable, (Except.ok.inj walked).symm⟩

/-- The last name of a walk may lead to nothing. -/
theorem walkWith_name (isName : IsName name) (noLink : ∀ t, fs.entry? (l ++ [name]) ≠ some (.link t)) :
    fs.walkWith followLast follow l [name] =
      if nameLimit < name.length then .error .nameTooLong else .ok (l ++ [name]) := by
  rw [walkWith, isName.notTrivial, if_neg Bool.false_ne_true, if_neg (by simpa using isName.notAbove)]
  split
  · rfl
  · dsimp only
    split
    · rfl
    · exact absurd ‹_› (noLink _)
    · rfl
    · rfl

end Walking

/-! ### Paths without links -/

/-- Where a path leads. -/
def goalOf (fs : FileSystem) (p : Path) : Location := goal (fs.startOf p) p.steps

/-- The locations on the way of a path. -/
def wayOf (fs : FileSystem) (p : Path) : List Location := way (fs.startOf p) p.steps

/-- Every name on the way of a path leads to a directory. -/
def Opens (fs : FileSystem) (p : Path) : Prop := fs.Walkable (fs.startOf p) p.steps

theorem startOf_congr (same : fs'.workingDirectory = fs.workingDirectory) (p : Path) :
    fs'.startOf p = fs.startOf p := by
  rw [startOf, startOf, same]

theorem goalOf_congr (same : fs'.workingDirectory = fs.workingDirectory) (p : Path) :
    fs'.goalOf p = fs.goalOf p := by
  rw [goalOf, goalOf, startOf_congr same]

theorem wayOf_congr (same : fs'.workingDirectory = fs.workingDirectory) (p : Path) :
    fs'.wayOf p = fs.wayOf p := by
  rw [wayOf, wayOf, startOf_congr same]

/-- A path can be walked as before if the directories on its way are still there. -/
theorem Opens.congr (opens : fs.Opens p) (same : fs'.workingDirectory = fs.workingDirectory)
    (directories : ∀ k ∈ fs.wayOf p, fs.entry? k = some .directory → fs'.entry? k = some .directory) :
    fs'.Opens p := by
  refine ⟨opens.short, fun k member => ?_⟩
  rw [startOf_congr same] at member
  exact directories k member (opens.directories k member)

theorem startOf_join (isName : IsName name) : fs.startOf (p.join ⟨name⟩) = fs.startOf p := by
  rw [startOf, startOf, p.isAbsolute_join isName]

theorem goalOf_join (isName : IsName name) : fs.goalOf (p.join ⟨name⟩) = fs.goalOf p ++ [name] := by
  rw [goalOf, startOf_join isName, p.steps_join isName, goal_append, goalOf, goal,
    if_neg isName.notAbove, goal]

theorem wayOf_join (isName : IsName name) :
    fs.wayOf (p.join ⟨name⟩) = fs.wayOf p ++ [fs.goalOf p ++ [name]] := by
  rw [wayOf, startOf_join isName, p.steps_join isName, way_append, wayOf, way,
    if_neg isName.notAbove, way, goalOf]

theorem opens_join_iff (isName : IsName name) : fs.Opens (p.join ⟨name⟩) ↔
    fs.Opens p ∧ name.length ≤ nameLimit ∧ fs.entry? (fs.goalOf p ++ [name]) = some .directory := by
  rw [Opens, startOf_join isName, p.steps_join isName, walkable_append, ← Opens]
  refine and_congr_right fun _ => ⟨fun ⟨short, directories⟩ => ?_, fun ⟨short, directory⟩ => ⟨?_, ?_⟩⟩
  · rw [way, if_neg isName.notAbove] at directories
    exact ⟨short name List.mem_cons_self, directories _ List.mem_cons_self⟩
  · exact fun s member => List.mem_singleton.1 member ▸ short
  · rw [way, if_neg isName.notAbove, way]
    exact fun k member => List.mem_singleton.1 member ▸ directory

theorem walk_eq_walkWith (followLast : Bool) (links : Nat) :
    ∃ follow, fs.walk followLast links = fs.walkWith followLast follow := by
  cases links with
  | zero => exact ⟨_, rfl⟩
  | succ links => exact ⟨_, rfl⟩

/-- Where a path leads is told by a walk along its segments. -/
theorem locate_eq_ok_iff {followLast : Bool} : fs.locate followLast p = .ok l ↔
    p.Fits ∧ fs.walk followLast linkLimit (fs.startOf p) p.segments = .ok l := by
  rw [locate, except_bind_eq_ok_iff]
  constructor
  · rintro ⟨segments, split, walked⟩
    obtain ⟨fits, rfl⟩ := segmentsOf_eq_ok_iff.1 split
    exact ⟨fits, walked⟩
  · rintro ⟨fits, walked⟩
    exact ⟨_, segmentsOf_eq_ok_iff.2 ⟨fits, rfl⟩, walked⟩

/-- A name behind an open path is looked up where the path leads. -/
theorem locate_join_eq_ok_iff (opens : fs.Opens p) (isName : IsName name)
    (noLink : ∀ t, fs.entry? (fs.goalOf p ++ [name]) ≠ some (.link t)) :
    fs.locate true (p.join ⟨name⟩) = .ok l ↔
      (p.join ⟨name⟩).Fits ∧ name.length ≤ nameLimit ∧ l = fs.goalOf p ++ [name] := by
  obtain ⟨follow, same⟩ := fs.walk_eq_walkWith true linkLimit
  obtain ⟨before, whole, steps⟩ := p.exists_segments_join isName
  have walked : fs.walk true linkLimit (fs.startOf (p.join ⟨name⟩)) (p.join ⟨name⟩).segments =
      if nameLimit < name.length then .error .nameTooLong else .ok (fs.goalOf p ++ [name]) := by
    rw [same, startOf_join isName, whole, walkWith_append (steps ▸ opens), steps, ← goalOf,
      walkWith_name isName noLink]
  rw [locate_eq_ok_iff, walked]
  refine and_congr_right fun _ => ?_
  constructor
  · intro located
    obtain ⟨short, located⟩ := guarded_eq_ok_iff.1 located
    exact ⟨Nat.not_lt.1 short, (Except.ok.inj located).symm⟩
  · rintro ⟨short, rfl⟩
    rw [if_neg (Nat.not_lt.2 short)]

/-- A path can be walked to its end if a name behind it is looked up at all. -/
theorem opens_of_locate_join (noLink : ∀ k ∈ fs.wayOf p, ∀ t, fs.entry? k ≠ some (.link t))
    (isName : IsName name) (located : fs.locate true (p.join ⟨name⟩) = .ok l) : fs.Opens p := by
  obtain ⟨-, walked⟩ := locate_eq_ok_iff.1 located
  obtain ⟨follow, same⟩ := fs.walk_eq_walkWith true linkLimit
  obtain ⟨before, whole, steps⟩ := p.exists_segments_join isName
  rw [same, startOf_join isName, whole] at walked
  rw [wayOf, ← steps] at noLink
  rw [Opens, ← steps]
  exact walkable_of_walkWith_append noLink walked (Or.inl (List.cons_ne_nil _ _))

theorem resolve_join_eq_ok_iff (opens : fs.Opens p) (isName : IsName name)
    (noLink : ∀ t, fs.entry? (fs.goalOf p ++ [name]) ≠ some (.link t)) :
    fs.resolve (p.join ⟨name⟩) = .ok (l, e) ↔ (p.join ⟨name⟩).Fits ∧ name.length ≤ nameLimit ∧
      l = fs.goalOf p ++ [name] ∧ fs.entry? (fs.goalOf p ++ [name]) = some e := by
  rw [resolve_eq_ok_iff, locate_join_eq_ok_iff opens isName noLink]
  constructor
  · rintro ⟨⟨fits, short, rfl⟩, there⟩
    exact ⟨fits, short, rfl, there⟩
  · rintro ⟨fits, short, rfl, there⟩
    exact ⟨⟨fits, short, rfl⟩, there⟩

theorem Opens.noLink (opens : fs.Opens p) : ∀ k ∈ fs.wayOf p, ∀ t, fs.entry? k ≠ some (.link t) :=
  fun k member _ link => nomatch (opens.directories k member).symm.trans link

theorem Slot.isNamed_of_isName {slot : Slot} (isName : IsName slot.name) : slot.isNamed = true := by
  rw [Slot.isNamed, isName.notTrivial, bne_iff_ne.2 isName.notAbove]
  rfl

end FileSystem

end SchemaHistory
