import SchemaHistory.Proofs.Files.Walk

/-!
Where a path leads, whatever links are on its way.

A path that leads to a directory is walked through directories and along links, each of which is replaced by
what it holds and uses up one of the links that a walk may follow. What such a walk has met decides where it
leads: it leads to the same place in all files that have these entries. So where nothing is taken away, all
paths lead to what they led to.
-/

namespace SchemaHistory

namespace FileSystem

open SchemaHistory.Path

variable {fs fs' : FileSystem} {n : Nat} {l g d : Location} {p : Path} {s name : Bytes}
  {rest segments segments' : List Bytes} {e : Entry}

/-- Segments lead from a location to a directory, along at most `n` links. -/
inductive Leads (fs : FileSystem) : Nat → Location → List Bytes → Location → Prop where
  | here {n : Nat} {l : Location} (home : fs.entry? l = some .directory) : Leads fs n l [] l
  | pass {n : Nat} {l g : Location} {s : Bytes} {rest : List Bytes} (trivial : isTrivial s = true)
      (next : Leads fs n l rest g) : Leads fs n l (s :: rest) g
  | up {n : Nat} {l g : Location} {rest : List Bytes} (next : Leads fs n l.dropLast rest g) :
      Leads fs n l (above :: rest) g
  | down {n : Nat} {l g : Location} {s : Bytes} {rest : List Bytes} (step : isTrivial s = false)
      (named : s ≠ above) (short : s.length ≤ nameLimit)
      (directory : fs.entry? (l ++ [s]) = some .directory) (next : Leads fs n (l ++ [s]) rest g) :
      Leads fs n l (s :: rest) g
  | along {n : Nat} {l g : Location} {s : Bytes} {rest : List Bytes} {target : Path}
      (step : isTrivial s = false) (named : s ≠ above) (short : s.length ≤ nameLimit)
      (link : fs.entry? (l ++ [s]) = some (.link target))
      (next : Leads fs n (if target.isAbsolute then [] else l) (target.segments ++ rest) g) :
      Leads fs (n + 1) l (s :: rest) g

/-- The directories and links of some files, which is all that a path leads through, are there in others. -/
structure Ways (fs fs' : FileSystem) : Prop where
  workingDirectory : fs'.workingDirectory = fs.workingDirectory
  entry : ∀ k e, fs.entry? k = some e → (∀ c, e ≠ .file c) → fs'.entry? k = some e

namespace Leads

theorem home (leads : fs.Leads n l segments g) : fs.entry? g = some .directory := by
  induction leads with
  | here home => exact home
  | pass _ _ ih => exact ih
  | up _ ih => exact ih
  | down _ _ _ _ _ ih => exact ih
  | along _ _ _ _ _ ih => exact ih

/-- Files that have the ways of others lead where those do. -/
theorem mono (leads : fs.Leads n l segments g) (ways : Ways fs fs') : fs'.Leads n l segments g := by
  have directories : ∀ k, fs.entry? k = some .directory → fs'.entry? k = some .directory :=
    fun k there => ways.entry k _ there fun _ => Entry.noConfusion
  induction leads with
  | here home => exact .here (directories _ home)
  | pass trivial _ ih => exact .pass trivial ih
  | up _ ih => exact .up ih
  | down step named short directory _ ih => exact .down step named short (directories _ directory) ih
  | along step named short link _ ih =>
    exact .along step named short (ways.entry _ _ link fun _ => Entry.noConfusion) ih

/-- More links may be followed. -/
theorem weaken (leads : fs.Leads n l segments g) {m : Nat} (enough : n ≤ m) : fs.Leads m l segments g := by
  induction leads generalizing m with
  | here home => exact .here home
  | pass trivial _ ih => exact .pass trivial (ih enough)
  | up _ ih => exact .up (ih enough)
  | down step named short directory _ ih => exact .down step named short directory (ih enough)
  | along step named short link _ ih =>
    obtain ⟨m, rfl⟩ := Nat.exists_eq_add_of_le' enough
    exact .along step named short link (ih (Nat.le_add_left _ m))

/-- Segments lead on from where others lead, along the links of both. -/
theorem append (leads : fs.Leads n l segments g) {m : Nat} (further : fs.Leads m g segments' d) :
    fs.Leads (n + m) l (segments ++ segments') d := by
  induction leads with
  | here => exact further.weaken (Nat.le_add_left m _)
  | pass trivial _ ih => exact .pass trivial (ih further)
  | up _ ih => exact .up (ih further)
  | down step named short directory _ ih => exact .down step named short directory (ih further)
  | along step named short link _ ih =>
    have next := ih further
    rw [List.append_assoc] at next
    rw [Nat.add_right_comm]
    exact .along step named short link next

/-! ### Segments without a meaning -/

theorem pass_all (trivial : ∀ s ∈ segments', isTrivial s = true) (leads : fs.Leads n l segments g) :
    fs.Leads n l (segments' ++ segments) g := by
  induction segments' with
  | nil => exact leads
  | cons s rest ih =>
    rw [List.forall_mem_cons] at trivial
    exact .pass trivial.1 (ih trivial.2)

/-- Where segments lead does not depend on those without a meaning. -/
theorem congr (leads : fs.Leads n l segments g)
    (same : segments'.filter (fun s => !isTrivial s) = segments.filter fun s => !isTrivial s) :
    fs.Leads n l segments' g := by
  -- a segment with a meaning has some without one before it in the other list
  have split : ∀ {s : Bytes} {rest segments' : List Bytes}, isTrivial s = false →
      segments'.filter (fun s => !isTrivial s) = (s :: rest).filter (fun s => !isTrivial s) →
      ∃ before rest', segments' = before ++ s :: rest' ∧ (∀ t ∈ before, isTrivial t = true) ∧
        rest'.filter (fun s => !isTrivial s) = rest.filter fun s => !isTrivial s := by
    intro s rest segments' step same
    rw [List.filter_cons_of_pos (by simpa using step), List.filter_eq_cons_iff] at same
    obtain ⟨before, rest', whole, trivial, -, same⟩ := same
    exact ⟨before, rest', whole, by simpa using trivial, same⟩
  induction leads generalizing segments' with
  | here home =>
    have trivial : ∀ s ∈ segments', isTrivial s = true := by simpa [List.filter_eq_nil_iff] using same
    rw [← List.append_nil segments']
    exact pass_all trivial (.here home)
  | pass trivial _ ih =>
    rw [List.filter_cons_of_neg (by simpa using trivial)] at same
    exact ih same
  | up _ ih =>
    obtain ⟨before, rest', rfl, trivial, same⟩ := split (by decide) same
    exact pass_all trivial (.up (ih same))
  | down step named short directory _ ih =>
    obtain ⟨before, rest', rfl, trivial, same⟩ := split step same
    exact pass_all trivial (.down step named short directory (ih same))
  | along step named short link _ ih =>
    obtain ⟨before, rest', rfl, trivial, same⟩ := split step same
    refine pass_all trivial (.along step named short link (ih ?_))
    rw [List.filter_append, List.filter_append, same]

end Leads

/-! ### Walking -/

section Walk

variable {followLast : Bool} {follow : Location → List Bytes → Except SystemError Location}

theorem walk_of_trivial (trivial : isTrivial s = true) :
    fs.walk followLast n l (s :: rest) = fs.walk followLast n l rest := by
  obtain ⟨follow, walk⟩ := fs.walk_eq_walkWith followLast n
  rw [walk, walkWith_of_trivial trivial]

theorem walk_above : fs.walk followLast n l (above :: rest) = fs.walk followLast n l.dropLast rest := by
  obtain ⟨follow, walk⟩ := fs.walk_eq_walkWith followLast n
  rw [walk, walkWith_above]

theorem walk_of_directory (step : isTrivial s = false) (named : s ≠ above) (short : s.length ≤ nameLimit)
    (directory : fs.entry? (l ++ [s]) = some .directory) :
    fs.walk followLast n l (s :: rest) = fs.walk followLast n (l ++ [s]) rest := by
  obtain ⟨follow, walk⟩ := fs.walk_eq_walkWith followLast n
  rw [walk, walkWith_of_directory step named short directory]

theorem walkWith_of_link {target : Path} (step : isTrivial s = false) (named : s ≠ above)
    (short : s.length ≤ nameLimit) (link : fs.entry? (l ++ [s]) = some (.link target)) :
    fs.walkWith true follow l (s :: rest) =
      follow (if target.isAbsolute then [] else l) (target.segments ++ rest) := by
  rw [walkWith_of_name step named short, link]
  simp

theorem short_of_walkWith (step : isTrivial s = false) (named : s ≠ above)
    (walked : fs.walkWith followLast follow l (s :: rest) = .ok g) : s.length ≤ nameLimit := by
  rw [walkWith, step, if_neg Bool.false_ne_true, if_neg (by simpa using named)] at walked
  split at walked
  · cases walked
  · exact Nat.not_lt.1 ‹_›

/-- A walk of segments and others behind them goes on with these where the first ones lead, and may still
follow the links that these have left over. -/
theorem Leads.walk_append (leads : fs.Leads n l segments g) : ∃ m k, m + k = n ∧
    fs.Leads m l segments g ∧ ∀ rest, fs.walk true n l (segments ++ rest) = fs.walk true k g rest := by
  induction leads with
  | here home => exact ⟨0, _, Nat.zero_add _, .here home, fun _ => rfl⟩
  | pass trivial _ ih =>
    obtain ⟨m, k, whole, leads, same⟩ := ih
    refine ⟨m, k, whole, .pass trivial leads, fun rest => ?_⟩
    rw [← same, List.cons_append, walk_of_trivial trivial]
  | up _ ih =>
    obtain ⟨m, k, whole, leads, same⟩ := ih
    exact ⟨m, k, whole, .up leads, fun rest => by rw [← same, List.cons_append, walk_above]⟩
  | down step named short directory _ ih =>
    obtain ⟨m, k, whole, leads, same⟩ := ih
    refine ⟨m, k, whole, .down step named short directory leads, fun rest => ?_⟩
    rw [← same, List.cons_append, walk_of_directory step named short directory]
  | along step named short link _ ih =>
    obtain ⟨m, k, whole, leads, same⟩ := ih
    refine ⟨m + 1, k, by rw [Nat.add_right_comm, whole], .along step named short link leads, fun rest => ?_⟩
    rw [← same, List.cons_append, walk, walkWith_of_link step named short link, List.append_assoc]

/-- A walk that ends at a directory is one of segments that lead there, if that holds of what it follows. -/
theorem leads_of_walkWith
    (followed : ∀ l segments, follow l segments = .ok g → ∃ m, n = m + 1 ∧ fs.Leads m l segments g)
    (walked : fs.walkWith true follow l segments = .ok g) (there : fs.entry? g = some .directory) :
    fs.Leads n l segments g := by
  induction segments generalizing l with
  | nil =>
    obtain rfl := Except.ok.inj walked
    exact .here there
  | cons s rest ih =>
    cases step : isTrivial s with
    | true =>
      rw [walkWith_of_trivial step] at walked
      exact .pass step (ih walked)
    | false =>
      by_cases named : s = above
      · subst named
        rw [walkWith_above] at walked
        exact .up (ih walked)
      · have short := short_of_walkWith step named walked
        by_cases link : ∃ target, fs.entry? (l ++ [s]) = some (.link target)
        · obtain ⟨target, link⟩ := link
          rw [walkWith_of_link step named short link] at walked
          obtain ⟨m, rfl, leads⟩ := followed _ _ walked
          exact .along step named short link leads
        · have directory := (directory_of_walkWith step named (not_exists.1 link) walked (Or.inr there)).2
          rw [walkWith_of_directory step named short directory] at walked
          exact .down step named short directory (ih walked)

theorem leads_iff_walk :
    fs.Leads n l segments g ↔ fs.walk true n l segments = .ok g ∧ fs.entry? g = some .directory := by
  constructor
  · intro leads
    obtain ⟨-, m, -, -, same⟩ := leads.walk_append
    obtain ⟨follow, walk⟩ := fs.walk_eq_walkWith true m
    refine ⟨?_, leads.home⟩
    rw [← List.append_nil segments, same, walk]
    rfl
  · rintro ⟨walked, there⟩
    induction n generalizing l segments with
    | zero =>
      rw [walk] at walked
      refine leads_of_walkWith ?_ walked there
      exact fun _ _ refused => nomatch refused
    | succ n ih =>
      rw [walk] at walked
      refine leads_of_walkWith ?_ walked there
      exact fun _ _ walked => ⟨n, rfl, ih walked⟩

/-- Segments lead to one directory at most. -/
theorem Leads.unique (leads : fs.Leads n l segments g) (leads' : fs.Leads n l segments d) : g = d :=
  Except.ok.inj ((leads_iff_walk.1 leads).1.symm.trans (leads_iff_walk.1 leads').1)

end Walk

/-! ### Paths -/

/-- A path leads to a directory. -/
def LeadsTo (fs : FileSystem) (p : Path) (g : Location) : Prop :=
  fs.Leads linkLimit (fs.startOf p) p.segments g

theorem LeadsTo.mono (leads : fs.LeadsTo p g) (ways : Ways fs fs') : fs'.LeadsTo p g := by
  rw [LeadsTo, startOf_congr ways.workingDirectory]
  exact Leads.mono leads ways

/-- A path leads to one directory at most. -/
theorem LeadsTo.unique (leads : fs.LeadsTo p g) (leads' : fs.LeadsTo p d) : g = d :=
  Leads.unique leads leads'

theorem resolve_eq_directory_iff :
    fs.resolve p = .ok (g, .directory) ↔ p.Fits ∧ fs.LeadsTo p g := by
  rw [resolve_eq_ok_iff, locate_eq_ok_iff, LeadsTo, leads_iff_walk, and_assoc]

theorem locateDirectory_eq_leads_iff :
    fs.locateDirectory l segments = .ok g ↔ fs.Leads linkLimit l segments g := by
  rw [locateDirectory, except_bind_eq_ok_iff, leads_iff_walk]
  constructor
  · rintro ⟨l', walked, located⟩
    split at located
    · rename_i there
      obtain rfl := Except.ok.inj located
      exact ⟨walked, there⟩
    · exact nomatch located
    · exact nomatch located
  · rintro ⟨walked, there⟩
    refine ⟨g, walked, ?_⟩
    rw [there]
    rfl

/-- A name behind a path is looked up where the path leads, if that is a directory, with the links that the
path has left over. -/
theorem LeadsTo.exists_walk_join (leads : fs.LeadsTo p g) (isName : IsName name) : ∃ m k, m + k = linkLimit ∧
    fs.Leads m (fs.startOf p) p.segments g ∧
      fs.walk true linkLimit (fs.startOf (p.join ⟨name⟩)) (p.join ⟨name⟩).segments =
        fs.walk true k g [name] := by
  obtain ⟨before, whole, steps⟩ := p.exists_segments_join isName
  obtain ⟨m, k, limit, way, same⟩ := (Leads.congr leads steps).walk_append
  exact ⟨m, k, limit, way.congr steps.symm, by rw [startOf_join isName, whole, same]⟩

/-- A name behind a path leads on from where the path leads, if the links of both are not too many. -/
theorem LeadsTo.leadsTo_join_iff (leads : fs.LeadsTo p l) (isName : IsName name) :
    fs.LeadsTo (p.join ⟨name⟩) g ↔ ∃ m n, m + n ≤ linkLimit ∧
      fs.Leads m (fs.startOf p) p.segments l ∧ fs.Leads n l [name] g := by
  constructor
  · intro through
    obtain ⟨walked, home⟩ := leads_iff_walk.1 through
    obtain ⟨m, k, limit, way, same⟩ := leads.exists_walk_join isName
    rw [same] at walked
    exact ⟨m, k, limit.le, way, leads_iff_walk.2 ⟨walked, home⟩⟩
  · rintro ⟨m, n, within, way, further⟩
    obtain ⟨before, whole, steps⟩ := p.exists_segments_join isName
    rw [LeadsTo, startOf_join isName, whole]
    exact ((way.congr steps).append further).weaken within

theorem LeadsTo.short_of_resolve (leads : fs.LeadsTo p g) (isName : IsName name)
    (resolved : fs.resolve (p.join ⟨name⟩) = .ok (l, e)) : name.length ≤ nameLimit := by
  obtain ⟨-, m, -, -, same⟩ := leads.exists_walk_join isName
  obtain ⟨follow, walk⟩ := fs.walk_eq_walkWith true m
  obtain ⟨-, walked⟩ := locate_eq_ok_iff.1 (resolve_eq_ok_iff.1 resolved).1
  rw [same, walk] at walked
  exact short_of_walkWith isName.notTrivial isName.notAbove walked

/-- A name behind a path to a directory is located there, unless a link has this name. -/
theorem LeadsTo.locate_join (leads : fs.LeadsTo p g) (isName : IsName name) (fits : (p.join ⟨name⟩).Fits)
    (short : name.length ≤ nameLimit) (noLink : ∀ t, fs.entry? (g ++ [name]) ≠ some (.link t)) :
    fs.locate true (p.join ⟨name⟩) = .ok (g ++ [name]) := by
  obtain ⟨-, m, -, -, same⟩ := leads.exists_walk_join isName
  obtain ⟨follow, walk⟩ := fs.walk_eq_walkWith true m
  refine locate_eq_ok_iff.2 ⟨fits, ?_⟩
  rw [same, walk, walkWith_name isName noLink, if_neg (Nat.not_lt.2 short)]

theorem LeadsTo.resolve_join (leads : fs.LeadsTo p g) (isName : IsName name) (fits : (p.join ⟨name⟩).Fits)
    (short : name.length ≤ nameLimit) (there : fs.entry? (g ++ [name]) = some e)
    (noLink : ∀ t, e ≠ .link t) : fs.resolve (p.join ⟨name⟩) = .ok (g ++ [name], e) :=
  resolve_eq_ok_iff.2 ⟨leads.locate_join isName fits short fun t link =>
    noLink t (Option.some.inj (there.symm.trans link)), there⟩

/-- Where a name behind a path leads to a file, the name is that of a file or of a link. -/
theorem LeadsTo.exists_entry_of_resolve_join {content : Bytes} (leads : fs.LeadsTo p g)
    (isName : IsName name) (resolved : fs.resolve (p.join ⟨name⟩) = .ok (l, .file content)) :
    ∃ e, fs.entry? (g ++ [name]) = some e ∧ e ≠ .directory := by
  obtain ⟨located, there⟩ := resolve_eq_ok_iff.1 resolved
  have fits := (locate_eq_ok_iff.1 located).1
  have short := leads.short_of_resolve isName resolved
  by_cases link : ∃ t, fs.entry? (g ++ [name]) = some (.link t)
  · obtain ⟨t, link⟩ := link
    exact ⟨_, link, Entry.noConfusion⟩
  · obtain rfl := Except.ok.inj <|
      (leads.locate_join isName fits short (not_exists.1 link)).symm.trans located
    exact ⟨_, there, Entry.noConfusion⟩

/-- A slot is in the directory that the segments lead to before the last one that is not empty. -/
theorem slotOf_eq_ok_iff {slot : Slot} : fs.slotOf p = .ok slot ↔ p.Fits ∧
    (p.segments.reverse.dropWhile (·.isEmpty) = [] ∧ slot = ⟨[], [], true⟩ ∨
      ∃ before, p.segments.reverse.dropWhile (·.isEmpty) = slot.name :: before ∧
        fs.Leads linkLimit (fs.startOf p) before.reverse slot.directory ∧
        slot.name.length ≤ nameLimit ∧ slot.slashed = p.endsInSlash) := by
  rw [slotOf, except_bind_eq_ok_iff]
  constructor
  · rintro ⟨segments, split, found⟩
    obtain ⟨fits, rfl⟩ := segmentsOf_eq_ok_iff.1 split
    refine ⟨fits, ?_⟩
    split at found
    · rename_i none
      exact Or.inl ⟨none, (Except.ok.inj found).symm⟩
    · rename_i name before last
      obtain ⟨d, located, found⟩ := except_bind_eq_ok_iff.1 found
      obtain ⟨short, found⟩ := guarded_eq_ok_iff.1 found
      obtain rfl := Except.ok.inj found
      exact Or.inr ⟨before, last, locateDirectory_eq_leads_iff.1 located, Nat.not_lt.1 short, rfl⟩
  · rintro ⟨fits, ⟨none, rfl⟩ | ⟨before, last, leads, short, slashed⟩⟩
    · refine ⟨_, segmentsOf_eq_ok_iff.2 ⟨fits, rfl⟩, ?_⟩
      rw [none]
      rfl
    · refine ⟨_, segmentsOf_eq_ok_iff.2 ⟨fits, rfl⟩, ?_⟩
      rw [last]
      refine except_bind_eq_ok_iff.2 ⟨_, locateDirectory_eq_leads_iff.2 leads, ?_⟩
      rw [if_neg (Nat.not_lt.2 short), ← slashed]
      rfl

theorem Ways.slotOf (ways : Ways fs fs') (found : fs.slotOf p = .ok slot) : fs'.slotOf p = .ok slot := by
  rw [slotOf_eq_ok_iff] at found ⊢
  refine found.imp_right fun there => there.imp_right fun ⟨before, last, leads, fitting⟩ => ?_
  refine ⟨before, last, ?_, fitting⟩
  rw [startOf_congr ways.workingDirectory]
  exact leads.mono ways

/-- A file that is put where at most a file was is in no path's way. -/
theorem ways_put_file (free : ∀ e, fs.entry? l = some e → ∃ c, e = .file c) (content : Bytes) :
    Ways fs (fs.put l (.file content)) := by
  have below : l ≠ [] := by
    rintro rfl
    obtain ⟨_, ⟨⟩⟩ := free .directory rfl
  refine ⟨workingDirectory_put .., fun k e there noFile => ?_⟩
  rw [entry?_put below, if_neg, there]
  rintro rfl
  obtain ⟨c, rfl⟩ := free e there
  exact noFile c rfl

/-- What is known of the slot of a path that ends in a name. -/
theorem slotOf_named {slot : Slot} (found : fs.slotOf p = .ok slot) (named : slot.isNamed = true) :
    IsName slot.name ∧ ∃ before, p.segments.reverse.dropWhile (·.isEmpty) = slot.name :: before ∧
      fs.Leads linkLimit (fs.startOf p) before.reverse slot.directory ∧
      slot.name.length ≤ nameLimit ∧ slot.slashed = p.endsInSlash := by
  obtain ⟨-, ⟨-, rfl⟩ | ⟨before, last, there⟩⟩ := slotOf_eq_ok_iff.1 found
  · exact absurd named (by decide)
  · rw [Slot.isNamed, Bool.and_eq_true, Bool.not_eq_true', bne_iff_ne] at named
    have member : slot.name ∈ p.segments :=
      List.mem_reverse.1 ((List.dropWhile_sublist _).subset (last ▸ List.mem_cons_self))
    exact ⟨⟨named.1, named.2, notMem_of_mem_pieces member⟩, before, last, there⟩

/-- The slot of a name behind a path is in the directory that the path leads to. -/
theorem slotOf_join_iff {slot : Slot} (isName : IsName name) :
    fs.slotOf (p.join ⟨name⟩) = .ok slot ↔ (p.join ⟨name⟩).Fits ∧ name.length ≤ nameLimit ∧
      fs.LeadsTo p slot.directory ∧ slot = ⟨slot.directory, name, false⟩ := by
  obtain ⟨before, whole, steps⟩ := p.exists_segments_join isName
  have last : (p.join ⟨name⟩).segments.reverse.dropWhile (·.isEmpty) = name :: before.reverse := by
    rw [whole, List.reverse_append, List.reverse_singleton, List.singleton_append,
      List.dropWhile_cons_of_neg (by simpa using isName.ne_nil)]
  rw [slotOf_eq_ok_iff, last, startOf_join isName, p.endsInSlash_join isName]
  refine and_congr_right fun _ => ?_
  constructor
  · rintro (⟨none, -⟩ | ⟨before', same, leads, short, slashed⟩)
    · exact absurd none (List.cons_ne_nil _ _)
    · obtain ⟨named, rfl⟩ := List.cons.inj same
      rw [List.reverse_reverse] at leads
      refine ⟨named ▸ short, leads.congr steps.symm, ?_⟩
      rw [named, ← slashed]
  · rintro ⟨short, leads, same⟩
    rw [same]
    exact Or.inr ⟨before.reverse, rfl, by rw [List.reverse_reverse]; exact leads.congr steps, short, rfl⟩

/-! ### Entries that stay -/

section Walk

variable {follow follow' : Location → List Bytes → Except SystemError Location} {segments : List Bytes}

theorem walkWith_mono (ways : Ways fs fs')
    (files : ∀ k c, fs.entry? k = some (.file c) → ∃ c', fs'.entry? k = some (.file c'))
    (followed : ∀ l segments, follow l segments = .ok g → follow' l segments = .ok g)
    (walked : fs.walkWith true follow l segments = .ok g) (there : fs.entry? g = some e) :
    fs'.walkWith true follow' l segments = .ok g := by
  induction segments generalizing l with
  | nil => exact walked
  | cons s rest ih =>
    cases step : isTrivial s with
    | true =>
      rw [walkWith_of_trivial step] at walked ⊢
      exact ih walked
    | false =>
      by_cases named : s = above
      · subst named
        rw [walkWith_above] at walked ⊢
        exact ih walked
      · have short := short_of_walkWith step named walked
        cases met : fs.entry? (l ++ [s]) with
        | none =>
          -- the walk would end where nothing is
          rw [walkWith_of_name step named short, met] at walked
          dsimp only at walked
          split at walked
          · obtain rfl := Except.ok.inj walked
            exact nomatch met.symm.trans there
          · cases walked
        | some e' =>
          cases e' with
          | directory =>
            rw [walkWith_of_directory step named short met] at walked
            rw [walkWith_of_directory step named short (ways.entry _ _ met fun _ => Entry.noConfusion)]
            exact ih walked
          | link target =>
            rw [walkWith_of_link step named short met] at walked
            rw [walkWith_of_link step named short (ways.entry _ _ met fun _ => Entry.noConfusion)]
            exact followed _ _ walked
          | file content =>
            obtain ⟨content', met'⟩ := files _ _ met
            rw [walkWith_of_name step named short, met] at walked
            rw [walkWith_of_name step named short, met']
            exact walked

/-- A walk ends where it did as long as the directories and links are there, and files where files were. -/
theorem walk_mono {n : Nat} (ways : Ways fs fs')
    (files : ∀ k c, fs.entry? k = some (.file c) → ∃ c', fs'.entry? k = some (.file c'))
    (walked : fs.walk true n l segments = .ok g) (there : fs.entry? g = some e) :
    fs'.walk true n l segments = .ok g := by
  induction n generalizing l segments with
  | zero =>
    rw [walk] at walked ⊢
    exact walkWith_mono ways files (fun _ _ refused => by cases refused) walked there
  | succ n ih =>
    rw [walk] at walked ⊢
    exact walkWith_mono ways files (fun _ _ => ih) walked there

theorem Ways.locate (ways : Ways fs fs')
    (files : ∀ k c, fs.entry? k = some (.file c) → ∃ c', fs'.entry? k = some (.file c'))
    (located : fs.locate true p = .ok l) (there : fs.entry? l = some e) : fs'.locate true p = .ok l := by
  obtain ⟨fits, walked⟩ := locate_eq_ok_iff.1 located
  rw [← startOf_congr ways.workingDirectory] at walked
  exact locate_eq_ok_iff.2 ⟨fits, walk_mono ways files walked there⟩

end Walk

/-- Nothing is taken away: every entry is still there, and every path still leads to it. -/
structure Kept (fs fs' : FileSystem) : Prop where
  entry : ∀ k e, fs.entry? k = some e → fs'.entry? k = some e
  slotOf : ∀ p slot, fs.slotOf p = .ok slot → fs'.slotOf p = .ok slot
  resolve : ∀ p k e, fs.resolve p = .ok (k, e) → fs'.resolve p = .ok (k, e)

theorem kept_of_entries (same : fs'.workingDirectory = fs.workingDirectory)
    (entries : ∀ k e, fs.entry? k = some e → fs'.entry? k = some e) : Kept fs fs' := by
  have ways : Ways fs fs' := ⟨same, fun k e there _ => entries k e there⟩
  refine ⟨entries, fun p slot => ways.slotOf, fun p k e resolved => ?_⟩
  obtain ⟨located, there⟩ := resolve_eq_ok_iff.1 resolved
  exact resolve_eq_ok_iff.2 ⟨ways.locate (fun k c there => ⟨c, entries k _ there⟩) located there,
    entries k e there⟩

/-! ### Paths without links -/

/-- A path without links leads to a directory if it is open and one is there. -/
theorem leadsTo_iff (noLink : ∀ k ∈ fs.wayOf p, ∀ t, fs.entry? k ≠ some (.link t)) :
    fs.LeadsTo p l ↔ fs.Opens p ∧ l = fs.goalOf p ∧ fs.entry? (fs.goalOf p) = some .directory := by
  obtain ⟨follow, walk⟩ := fs.walk_eq_walkWith true linkLimit
  rw [LeadsTo, leads_iff_walk, walk]
  constructor
  · rintro ⟨walked, there⟩
    obtain ⟨opens, rfl⟩ := walkable_of_walkWith noLink walked there
    exact ⟨opens, rfl, there⟩
  · rintro ⟨opens, rfl, there⟩
    exact ⟨walkWith_of_walkable opens, there⟩

theorem resolve_directory_iff (noLink : ∀ k ∈ fs.wayOf p, ∀ t, fs.entry? k ≠ some (.link t)) :
    fs.resolve p = .ok (l, .directory) ↔
      p.Fits ∧ fs.Opens p ∧ l = fs.goalOf p ∧ fs.entry? (fs.goalOf p) = some .directory := by
  rw [resolve_eq_directory_iff, leadsTo_iff noLink]

theorem slotOf_join_eq_ok_iff {slot : Slot}
    (noLink : ∀ k ∈ fs.wayOf p, ∀ t, fs.entry? k ≠ some (.link t)) (isName : IsName name) :
    fs.slotOf (p.join ⟨name⟩) = .ok slot ↔ (p.join ⟨name⟩).Fits ∧ fs.Opens p ∧
      fs.entry? (fs.goalOf p) = some .directory ∧ name.length ≤ nameLimit ∧
        slot = ⟨fs.goalOf p, name, false⟩ := by
  rw [slotOf_join_iff isName, leadsTo_iff noLink]
  constructor
  · rintro ⟨fits, short, ⟨opens, here, home⟩, same⟩
    exact ⟨fits, opens, home, short, here ▸ same⟩
  · rintro ⟨fits, opens, home, short, rfl⟩
    exact ⟨fits, short, ⟨opens, rfl, home⟩, rfl⟩

end FileSystem

end SchemaHistory
