import SchemaHistory.Proofs.Files.Made

/-!
The place that a path names, whatever links are on its way.

A path that ends in a name names a place: this name, in the directory that the path without it leads to. The
directories that are made for a path are where the paths above it lead, and a path at whose place an entry
stands is read there.
-/

namespace SchemaHistory

open FileSystem

namespace Path

variable {p : Path} {name : Bytes}

/-- A name at the end of a path is its last step. -/
theorem steps_of_fileName? (found : p.fileName? = some name) :
    IsName name ∧ ∃ before, p.steps = before ++ [name] := by
  obtain ⟨first, rest, whole, absent, -⟩ := p.exists_segments_eq_cons
  rw [fileName?, whole] at found
  dsimp only at found
  -- the last part has a meaning, and is a segment
  have named : ∀ (last : Bytes) (before : List Bytes), last ∈ first :: rest →
      (isTrivial last = false → p.steps = before ++ [last]) →
      (if isTrivial last || last == above then none else some last) = some name →
      IsName name ∧ ∃ before, p.steps = before ++ [name] := by
    intro last before member steps found
    split at found
    · cases found
    · rename_i meant
      rw [Bool.or_eq_true, not_or, Bool.not_eq_true, beq_iff_eq] at meant
      obtain rfl := Option.some.inj found
      exact ⟨⟨meant.1, meant.2, absent last member⟩, before, steps meant.1⟩
  cases ends : (dropTrivialEnd rest).reverse with
  | nil =>
    simp only [ends] at found
    refine named first [] List.mem_cons_self (fun meant => ?_) found
    have none : rest.filter (fun s => !isTrivial s) = [] := by
      rw [← filter_dropTrivialEnd, List.reverse_eq_nil_iff.1 ends]
      rfl
    rw [steps, whole, List.filter_cons_of_pos (by simp [meant]), none]
    rfl
  | cons last before =>
    simp only [ends] at found
    have member : last ∈ rest := mem_of_mem_dropTrivialEnd (List.mem_reverse.1 (ends ▸ List.mem_cons_self))
    refine named last ([first].filter (fun s => !isTrivial s) ++ before.reverse.filter fun s => !isTrivial s)
      (List.mem_cons_of_mem first member) (fun _ => ?_) found
    rw [steps, whole, ← List.singleton_append, List.filter_append, filter_of_dropTrivialEnd ends,
      ← List.append_assoc]

/-- A path that ends in a name has this name behind the steps of the path without it. -/
theorem exists_parent?_of_fileName? (found : p.fileName? = some name) :
    ∃ parent, p.parent? = some parent ∧ p.steps = parent.steps ++ [name] := by
  obtain ⟨-, before, whole⟩ := steps_of_fileName? found
  rcases parent?_of_steps_eq_concat whole with ⟨same, rfl, -⟩ | ⟨parent, same, -, rfl, -⟩
  · exact ⟨⟨[]⟩, same, whole⟩
  · exact ⟨parent, same, whole⟩

/-- A path without a slash at its end has a last segment. -/
theorem dropWhile_isEmpty_of_plain (plain : p.endsInSlash = false) (nonempty : p.bytes ≠ []) :
    p.segments.reverse.dropWhile (·.isEmpty) = p.segments.reverse := by
  obtain ⟨bytes⟩ := p
  obtain rfl | ⟨before, last, rfl⟩ := List.eq_nil_or_concat' bytes
  · exact absurd rfl nonempty
  · have other : last ≠ slash := by simpa [endsInSlash] using plain
    obtain ⟨ls, l, ends⟩ := exists_pieces_eq_concat (· == slash) before
    have single : pieces (· == slash) [last] = [[last]] := pieces_of_notMem (by simpa using other.symm)
    rw [segments, pieces_append ends single, List.reverse_append, List.reverse_singleton,
      List.singleton_append, List.dropWhile_cons_of_neg (by simp)]

end Path

namespace FileSystem

open SchemaHistory.Path FileSystem.Action

variable {fs fs' : FileSystem} {p q parent : Path} {l g k : Location} {e : Entry} {slot : Slot}
  {name : Bytes}

/-! ### Slots -/

/-- The slot of a path that ends in a name has this name. -/
theorem name_of_slotOf (steps : p.steps = parent.steps ++ [name]) (found : fs.slotOf p = .ok slot)
    (named : slot.isNamed = true) : slot.name = name := by
  obtain ⟨isName, before, last, -⟩ := slotOf_named found named
  rw [steps_of_dropWhile_isEmpty last isName.notTrivial] at steps
  exact List.singleton_inj.1 (List.append_inj' steps rfl).2

/-- A path leads to its place if a directory is there. -/
theorem leadsTo_of_slotOf (found : fs.slotOf p = .ok slot) (named : slot.isNamed = true)
    (directory : fs.entry? slot.location = some .directory) : fs.LeadsTo p slot.location := by
  obtain ⟨isName, before, last, leads, short, -⟩ := slotOf_named found named
  have whole : fs.Leads linkLimit (fs.startOf p) (before.reverse ++ [slot.name]) slot.location := by
    obtain ⟨-, m, -, -, same⟩ := leads.walk_append
    obtain ⟨follow, walk⟩ := fs.walk_eq_walkWith true m
    refine leads_iff_walk.2 ⟨?_, directory⟩
    rw [same, walk_of_directory isName.notTrivial isName.notAbove short directory, walk]
    rfl
  refine Leads.congr whole ?_
  rw [← Path.steps, steps_of_dropWhile_isEmpty last isName.notTrivial, List.filter_append,
    List.filter_singleton, isName.notTrivial]
  rfl

/-- A path leads to what is at its place, if that is no link. -/
theorem resolve_of_slotOf (found : fs.slotOf p = .ok slot) (named : slot.isNamed = true)
    (plain : slot.slashed = false) (there : fs.entry? slot.location = some e) (noLink : ∀ t, e ≠ .link t) :
    fs.resolve p = .ok (slot.location, e) := by
  obtain ⟨isName, before, last, leads, short, slashed⟩ := slotOf_named found named
  have fits := (slotOf_eq_ok_iff.1 found).1
  rw [dropWhile_isEmpty_of_plain (slashed ▸ plain) fits.nonempty, List.reverse_eq_cons_iff] at last
  obtain ⟨-, m, -, -, same⟩ := leads.walk_append
  obtain ⟨follow, walk⟩ := fs.walk_eq_walkWith true m
  refine resolve_eq_ok_iff.2 ⟨locate_eq_ok_iff.2 ⟨fits, ?_⟩, there⟩
  rw [last, same, walk,
    walkWith_name isName fun t link => noLink t (Option.some.inj (there.symm.trans link)),
    if_neg (Nat.not_lt.2 short)]
  rfl

/-! ### Directories above a place -/

/-- Directories are made where nothing was, each where one of some paths leads, and nothing else changes. -/
structure GrownAt (paths : List Path) (fs fs' : FileSystem) : Prop extends Grown fs fs' where
  led : ∀ k, fs.entry? k = none → fs'.entry? k ≠ none → ∃ q ∈ paths, fs'.LeadsTo q k

instance (paths : List Path) : IsPreorder FileSystem (GrownAt paths) where
  refl fs := ⟨refl_of Grown fs, fun _ nothing made => absurd nothing made⟩
  trans fs fs' fs'' first second := by
    refine ⟨trans_of Grown first.toGrown second.toGrown, fun k nothing made => ?_⟩
    by_cases before : fs'.entry? k = none
    · exact second.led k before made
    · obtain ⟨q, member, leads⟩ := first.led k nothing before
      exact ⟨q, member, leads.mono second.ways⟩

theorem grownAt_makeDirectory {paths : List Path} (member : p ∈ paths)
    (made : fs.makeDirectory p = .ok fs') : GrownAt paths fs fs' := by
  have grown := Grown.of_makeDirectory made
  refine ⟨grown, fun k nothing there => ⟨p, member, ?_⟩⟩
  obtain ⟨slot, found, named, -, rfl⟩ := makeDirectory_eq_ok made
  have put : ∀ k, entry? (fs.put slot.location .directory) k =
      if k = slot.location then some .directory else fs.entry? k := entry?_put (by simp [Slot.location]) _
  have here : k = slot.location := by
    by_contra other
    rw [put, if_neg other] at there
    exact there nothing
  rw [here]
  exact leadsTo_of_slotOf (grown.ways.slotOf found) named (by rw [put, if_pos rfl])

/-- The directories that are made for a path are where it and those above it lead, whether all are made or
not. -/
theorem grownAt_makeDirectories (p : Path) (fs : FileSystem) :
    GrownAt (p :: p.parents) fs (leftBy (makeDirectories p fs)) :=
  keeps_makeDirectoryIn (R := GrownAt (p :: p.parents)) p.parents p
    (fun _ member _ _ => grownAt_makeDirectory member) fs

/-! ### Names that can be looked up -/

section Behind

variable {follow : Location → List Bytes → Except SystemError Location} {segments : List Bytes} {n : Nat}

theorem entry?_ite_root (home : fs.entry? l = some .directory) (root : Bool) :
    fs.entry? (if root then [] else l) = some .directory := by
  cases root with
  | false => exact home
  | true => rfl

/-- The segments before a name that is looked up lead to a directory, if that holds of what is followed. -/
theorem exists_leads_of_walkWith (wf : fs.WellFormed)
    (followed : ∀ l segments, fs.entry? l = some .directory → follow l (segments ++ [name]) = .ok g →
      ∃ m d, n = m + 1 ∧ fs.Leads m l segments d)
    (home : fs.entry? l = some .directory)
    (walked : fs.walkWith true follow l (segments ++ [name]) = .ok g) : ∃ d, fs.Leads n l segments d := by
  induction segments generalizing l with
  | nil => exact ⟨l, .here home⟩
  | cons s rest ih =>
    rw [List.cons_append] at walked
    cases step : isTrivial s with
    | true =>
      rw [walkWith_of_trivial step] at walked
      obtain ⟨d, leads⟩ := ih home walked
      exact ⟨d, .pass step leads⟩
    | false =>
      by_cases named : s = above
      · subst named
        rw [walkWith_above] at walked
        have higher : fs.entry? l.dropLast = some .directory := by
          obtain rfl | ⟨before, last, rfl⟩ := List.eq_nil_or_concat' l
          · exact home
          · rw [List.dropLast_concat]
            exact wf.directory_of_entry (List.cons_ne_nil last []) home
        obtain ⟨d, leads⟩ := ih higher walked
        exact ⟨d, .up leads⟩
      · -- the walk goes on behind this name, which is no file therefore
        have short := short_of_walkWith step named walked
        rw [walkWith_of_name step named short] at walked
        have further : (rest ++ [name]).isEmpty = false := by simp
        split at walked
        · rename_i directory
          obtain ⟨d, leads⟩ := ih directory walked
          exact ⟨d, .down step named short directory leads⟩
        · rename_i target link
          rw [further, Bool.false_and, if_neg Bool.false_ne_true, ← List.append_assoc] at walked
          obtain ⟨m, d, rfl, leads⟩ := followed _ _ (entry?_ite_root home _) walked
          exact ⟨d, .along step named short link leads⟩
        · rw [further, if_neg Bool.false_ne_true] at walked
          cases walked
        · rw [further, if_neg Bool.false_ne_true] at walked
          cases walked

theorem exists_leads_of_walk (wf : fs.WellFormed) (home : fs.entry? l = some .directory)
    (walked : fs.walk true n l (segments ++ [name]) = .ok g) : ∃ d, fs.Leads n l segments d := by
  induction n generalizing l segments with
  | zero =>
    rw [walk] at walked
    exact exists_leads_of_walkWith wf (fun _ _ _ refused => by cases refused) home walked
  | succ n ih =>
    rw [walk] at walked
    refine exists_leads_of_walkWith wf (fun _ _ home walked => ?_) home walked
    obtain ⟨d, leads⟩ := ih home walked
    exact ⟨n, d, rfl, leads⟩

end Behind

/-- A path leads to a directory if a name behind it can be looked up. -/
theorem exists_leadsTo_of_locate_join (wf : fs.WellFormed)
    (home : fs.entry? fs.workingDirectory = some .directory) (isName : IsName name)
    (located : fs.locate true (p.join ⟨name⟩) = .ok l) : ∃ d, fs.LeadsTo p d := by
  obtain ⟨-, walked⟩ := locate_eq_ok_iff.1 located
  obtain ⟨before, whole, steps⟩ := p.exists_segments_join isName
  rw [whole, startOf_join isName] at walked
  have start : fs.entry? (fs.startOf p) = some .directory := entry?_ite_root home p.isAbsolute
  obtain ⟨d, leads⟩ := exists_leads_of_walk wf start walked
  exact ⟨d, leads.congr steps.symm⟩

/-- A path that leads anywhere leads by way of its place, where no way is there that was not before. -/
theorem slotOf_of_resolve {r : Location × Entry} (wf : fs'.WellFormed)
    (home : fs'.entry? fs'.workingDirectory = some .directory) (ways : Ways fs' fs)
    (found : fs.slotOf p = .ok slot) (named : slot.isNamed = true) (plain : slot.slashed = false)
    (resolved : fs'.resolve p = .ok r) : fs'.slotOf p = .ok slot := by
  obtain ⟨-, before, last, leads, fitting⟩ := slotOf_named found named
  have fits := (slotOf_eq_ok_iff.1 found).1
  obtain ⟨-, walked⟩ := locate_eq_ok_iff.1 (resolve_eq_ok_iff.1 resolved).1
  have whole : p.segments = before.reverse ++ [slot.name] := by
    rwa [dropWhile_isEmpty_of_plain (fitting.2 ▸ plain) fits.nonempty, List.reverse_eq_cons_iff] at last
  rw [whole] at walked
  obtain ⟨d, leads'⟩ := exists_leads_of_walk wf (entry?_ite_root home p.isAbsolute) walked
  have same : fs.Leads linkLimit (fs.startOf p) before.reverse d := by
    rw [startOf_congr ways.workingDirectory]
    exact leads'.mono ways
  obtain rfl := same.unique leads
  exact slotOf_eq_ok_iff.2 ⟨fits, Or.inr ⟨before, last, leads', fitting⟩⟩

/-! ### Files at a place -/

/-- A file is written at the place of its path, unless it is a link that is written through. -/
theorem slotOf_of_writeBytes {content : Bytes} (wf : fs.WellFormed)
    (home : fs.entry? fs.workingDirectory = some .directory) (isName : IsName name)
    (noLink : ∀ slot, fs.slotOf (p.join ⟨name⟩) = .ok slot → ∀ t, fs.entry? slot.location ≠ some (.link t))
    (written : fs.writeBytes (p.join ⟨name⟩) content = .ok fs') : ∃ d, fs.LeadsTo p d ∧
      fs.slotOf (p.join ⟨name⟩) = .ok ⟨d, name, false⟩ ∧ fs.entry? (d ++ [name]) ≠ some .directory ∧
      fs' = fs.put (d ++ [name]) (.file content) := by
  obtain ⟨-, l, located, before, rfl⟩ := writeBytes_eq_ok written
  obtain ⟨d, leads⟩ := exists_leadsTo_of_locate_join wf home isName located
  obtain ⟨fits, walked⟩ := locate_eq_ok_iff.1 located
  obtain ⟨-, m, -, -, same⟩ := leads.exists_walk_join isName
  obtain ⟨follow, walk⟩ := fs.walk_eq_walkWith true m
  rw [same, walk] at walked
  have short := short_of_walkWith isName.notTrivial isName.notAbove walked
  have found : fs.slotOf (p.join ⟨name⟩) = .ok ⟨d, name, false⟩ :=
    (slotOf_join_iff isName).2 ⟨fits, short, leads, rfl⟩
  rw [walkWith_name isName (noLink _ found), if_neg (Nat.not_lt.2 short)] at walked
  obtain rfl := Except.ok.inj walked
  exact ⟨d, leads, found, before, rfl⟩

theorem removeFile_of_slotOf (found : fs.slotOf p = .ok slot) (named : slot.isNamed = true)
    (plain : slot.slashed = false) (there : fs.entry? slot.location = some e) (other : e ≠ .directory) :
    fs.removeFile p = .ok (fs.cut slot.location) := by
  rw [removeFile, found]
  change (if (!slot.isNamed) = true then _ else _) = _
  rw [named, Bool.not_true, if_neg Bool.false_ne_true, there]
  cases e with
  | directory => exact absurd rfl other
  | file => rw [plain]; rfl
  | link => rw [plain]; rfl

/-- A file that is put at a place opens no way. -/
theorem ways_of_put_file (below : l ≠ []) (content : Bytes) : Ways (fs.put l (.file content)) fs := by
  refine ⟨(workingDirectory_put ..).symm, fun k e there other => ?_⟩
  rw [entry?_put below] at there
  split at there
  · exact absurd (Option.some.inj there).symm (other content)
  · exact there

/-- What is put at a free place and removed again was never there. -/
theorem cut_put_of_free (wf : fs.WellFormed) (free : fs.entry? l = none) (e : Entry) :
    (fs.put l e).cut l = fs := by
  have below : l ≠ [] := by
    rintro rfl
    exact nomatch free
  have outside : ∀ p ∈ fs.entries, (!l.isPrefixOf p.1) = true := by
    rintro ⟨k, e'⟩ member
    rw [Bool.not_eq_true', ← Bool.not_eq_true, List.isPrefixOf_iff_prefix]
    obtain ⟨d, name, rfl, -, -⟩ := wf.housed k e' member
    obtain ⟨e'', there⟩ := Option.isSome_iff_exists.1 (isSome_lookup_iff.2 (List.mem_map_of_mem member))
    rw [← entry?_of_ne_nil _ (by simp)] at there
    exact wf.not_prefix_of_eq_none free there
  have absent : fs.entries.lookup l = none := by rw [← entry?_of_ne_nil _ below, free]
  rw [put, absent, Option.isSome_none, if_neg Bool.false_ne_true, cut]
  dsimp only
  rw [List.filter_append, List.filter_eq_self.2 outside,
    List.filter_cons_of_neg (by simp [List.isPrefixOf_iff_prefix])]
  simp

end FileSystem

end SchemaHistory
