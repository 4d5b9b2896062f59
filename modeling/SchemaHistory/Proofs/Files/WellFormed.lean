import Mathlib.Data.List.Nodup
import SchemaHistory.Proofs.Files.Leads

/-!
File systems in which every entry is at home.

No location is listed twice, and every entry has a name and stands in a directory. Making a directory and
moving an entry keep this, as does putting an entry into a directory.
-/

namespace SchemaHistory

namespace FileSystem

open SchemaHistory.Path FileSystem.Action

variable {fs fs' : FileSystem} {l d k source target : Location} {p old new : Path} {name : Bytes}
  {e : Entry}

/-- No location has two entries, and every entry has a name in a directory. -/
structure WellFormed (fs : FileSystem) : Prop where
  nodup : (fs.entries.map (·.1)).Nodup
  housed : ∀ l e, (l, e) ∈ fs.entries →
    ∃ directory name, l = directory ++ [name] ∧ IsName name ∧ fs.entry? directory = some .directory

theorem mem_of_entry_eq_some (below : l ≠ []) (there : fs.entry? l = some e) : (l, e) ∈ fs.entries := by
  rw [entry?_of_ne_nil _ below] at there
  exact mem_of_lookup_eq_some there

namespace WellFormed

/-- What stands above an entry is a directory. -/
theorem directory_of_entry (wf : fs.WellFormed) {r : Location} (below : r ≠ [])
    (there : fs.entry? (l ++ r) = some e) : fs.entry? l = some .directory := by
  induction r using List.reverseRecOn generalizing e with
  | nil => exact absurd rfl below
  | append_singleton r name ih =>
    rw [← List.append_assoc] at there
    obtain ⟨directory, name', same, -, home⟩ := wf.housed _ _ (mem_of_entry_eq_some (by simp) there)
    obtain ⟨rfl, -⟩ := List.append_inj' same rfl
    by_cases here : r = []
    · rwa [here, List.append_nil] at home
    · exact ih here home

/-- Nothing stands below what is no directory. -/
theorem entry?_append_eq_none (wf : fs.WellFormed) (noDirectory : fs.entry? l ≠ some .directory)
    {r : Location} (below : r ≠ []) : fs.entry? (l ++ r) = none := by
  cases there : fs.entry? (l ++ r) with
  | none => rfl
  | some e => exact absurd (wf.directory_of_entry below there) noDirectory

/-- Nothing stands at or below a free place. -/
theorem not_prefix_of_eq_none (wf : fs.WellFormed) (free : fs.entry? l = none)
    (there : fs.entry? k = some e) : ¬ l <+: k := by
  rintro ⟨r, rfl⟩
  by_cases here : r = []
  · rw [here, List.append_nil, free] at there
    exact nomatch there
  · exact nomatch free.symm.trans (wf.directory_of_entry here there)

theorem isName (wf : fs.WellFormed) (there : fs.entry? (l ++ [name]) = some e) : IsName name := by
  obtain ⟨directory, name', same, isName, -⟩ := wf.housed _ _ (mem_of_entry_eq_some (by simp) there)
  obtain ⟨-, same⟩ := List.append_inj' same rfl
  rwa [(List.cons.inj same).1]

end WellFormed

theorem wellFormed_iff : fs.WellFormed ↔ (fs.entries.map (·.1)).Nodup ∧ ∀ p ∈ fs.entries,
    ∃ name ∈ p.1.getLast?, IsName name ∧ fs.entry? p.1.dropLast = some .directory := by
  constructor
  · refine fun wf => ⟨wf.nodup, fun ⟨l, e⟩ member => ?_⟩
    obtain ⟨directory, name, rfl, isName, home⟩ := wf.housed l e member
    exact ⟨name, by simp, isName, by simpa using home⟩
  · rintro ⟨nodup, housed⟩
    refine ⟨nodup, fun l e member => ?_⟩
    obtain ⟨name, last, isName, home⟩ := housed (l, e) member
    obtain ⟨directory, rfl⟩ := List.getLast?_eq_some_iff.1 last
    exact ⟨directory, name, rfl, isName, by simpa using home⟩

instance : Decidable fs.WellFormed := decidable_of_iff _ wellFormed_iff.symm

/-! ### Names in a directory -/

/-- The last name of a location that is directly below another one. -/
theorem nameIn_eq_some_iff :
    (if k.dropLast == l then k.getLast? else none) = some name ↔ k = l ++ [name] := by
  constructor
  · intro named
    split at named
    · rename_i above
      obtain ⟨before, rfl⟩ := List.getLast?_eq_some_iff.1 named
      rw [List.dropLast_concat] at above
      rw [eq_of_beq above]
    · exact nomatch named
  · rintro rfl
    simp

theorem mem_namesIn_iff : name ∈ fs.namesIn l ↔ ∃ e, fs.entry? (l ++ [name]) = some e := by
  rw [namesIn, List.mem_filterMap, entry?_of_ne_nil _ (by simp), ← Option.isSome_iff_exists,
    isSome_lookup_iff, List.mem_map]
  refine exists_congr fun ⟨k, e⟩ => and_congr_right fun _ => ?_
  exact nameIn_eq_some_iff

theorem namesIn_eq (fs : FileSystem) (l : Location) : fs.namesIn l =
    (fs.entries.map (·.1)).filterMap fun k => if k.dropLast == l then k.getLast? else none := by
  rw [List.filterMap_map]
  rfl

theorem WellFormed.nodup_namesIn (wf : fs.WellFormed) (l : Location) : (fs.namesIn l).Nodup := by
  rw [namesIn_eq]
  refine wf.nodup.filterMap fun k k' name here there => ?_
  rw [nameIn_eq_some_iff.1 here, nameIn_eq_some_iff.1 there]

theorem nameIn_eq_none (other : ∀ name, k ≠ l ++ [name]) :
    (if k.dropLast == l then k.getLast? else none) = none :=
  Option.eq_none_iff_forall_ne_some.2 fun name named => other name (nameIn_eq_some_iff.1 named)

theorem namesIn_put (e : Entry) (other : ∀ name, k ≠ l ++ [name]) :
    (fs.put k e).namesIn l = fs.namesIn l := by
  rw [namesIn_eq, namesIn_eq, entries_put]
  split
  · rw [List.map_map]
    rfl
  · rw [List.map_append, List.filterMap_append, List.map_singleton, List.filterMap_cons,
      nameIn_eq_none other, List.filterMap_nil, List.append_nil]

/-! ### Changes -/

/-- A directory can be put only where there is none other than it, and what is no directory anywhere else. -/
theorem WellFormed.put (wf : fs.WellFormed) (isName : IsName name) (home : fs.entry? d = some .directory)
    (fitting : fs.entry? (d ++ [name]) = some .directory → e = .directory) :
    (fs.put (d ++ [name]) e).WellFormed := by
  have directories : ∀ k, fs.entry? k = some .directory →
      entry? (fs.put (d ++ [name]) e) k = some .directory := fun k there => by
    rw [entry?_put (by simp)]
    split
    · rename_i here
      rw [fitting (here ▸ there)]
    · exact there
  refine ⟨?_, fun k e' member => ?_⟩
  · rw [entries_put]
    split
    · rw [List.map_map]
      exact wf.nodup
    · rename_i missing
      rw [isSome_lookup_iff] at missing
      rw [List.map_append, List.nodup_append]
      refine ⟨wf.nodup, List.nodup_singleton _, fun k there k' last same => missing ?_⟩
      rw [List.map_singleton, List.mem_singleton] at last
      rw [same, last] at there
      exact there
  · rcases mem_of_mem_put member with old | ⟨rfl, rfl⟩
    · obtain ⟨directory, name', same, isName', home'⟩ := wf.housed k e' old
      exact ⟨directory, name', same, isName', directories _ home'⟩
    · exact ⟨d, name, rfl, isName, directories d home⟩

/-- The name of a slot can be given to an entry, and its directory is there. -/
theorem slotOf_housed {slot : Slot} (found : fs.slotOf p = .ok slot) (named : slot.isNamed = true) :
    IsName slot.name ∧ fs.entry? slot.directory = some .directory := by
  obtain ⟨isName, before, -, leads, -⟩ := slotOf_named found named
  exact ⟨isName, leads.home⟩

theorem WellFormed.makeDirectory (wf : fs.WellFormed) (made : fs.makeDirectory p = .ok fs') :
    fs'.WellFormed := by
  obtain ⟨slot, found, named, free, rfl⟩ := makeDirectory_eq_ok made
  obtain ⟨isName, home⟩ := slotOf_housed found named
  exact wf.put isName home fun _ => rfl

/-! ### Moving -/

/-- Neither of two locations is at or below the other. -/
def Apart (l k : Location) : Prop := ¬ l <+: k ∧ ¬ k <+: l

theorem Apart.append_ne (apart : Apart l k) (r r' : Location) : l ++ r ≠ k ++ r' := fun same =>
  (List.prefix_or_prefix_of_prefix (List.prefix_append l r) (same ▸ List.prefix_append k r')).elim
    apart.1 apart.2

theorem apart_concat {x y : Bytes} (inside : ¬ l ++ [x] <+: k) (above : ¬ k ++ [y] <+: l)
    (other : l ++ [x] ≠ k ++ [y]) : Apart (l ++ [x]) (k ++ [y]) := by
  constructor <;> rw [List.prefix_concat_iff, not_or]
  · exact ⟨other, inside⟩
  · exact ⟨other.symm, above⟩

/-- What is where after an entry was moved. -/
structure Moved (source target : Location) (fs fs' : FileSystem) : Prop where
  workingDirectory : fs'.workingDirectory = fs.workingDirectory
  arrived : ∀ r, fs'.entry? (target ++ r) = fs.entry? (source ++ r)
  others : ∀ k, ¬ target <+: k → fs'.entry? k = if source <+: k then none else fs.entry? k
  names : ∀ l, (∀ name, ¬ source <+: l ++ [name]) → (∀ name, ¬ target <+: l ++ [name]) →
    fs'.namesIn l = fs.namesIn l

theorem namesIn_cut (apart : ∀ name, ¬ k <+: l ++ [name]) : (fs.cut k).namesIn l = fs.namesIn l := by
  change ((fs.entries.filter fun p => !k.isPrefixOf p.1).filterMap _) = _
  rw [List.filterMap_filter]
  refine List.filterMap_congr fun p _ => ?_
  split
  · rfl
  · rename_i inside
    rw [Bool.not_eq_true', Bool.not_eq_false, List.isPrefixOf_iff_prefix] at inside
    exact (nameIn_eq_none fun name same => apart name (same ▸ inside)).symm

theorem namesIn_relocate (apart : ∀ name, ¬ source <+: l ++ [name])
    (apart' : ∀ name, ¬ target <+: l ++ [name]) : (fs.relocate source target).namesIn l = fs.namesIn l := by
  rw [namesIn_eq, namesIn_eq, entries_relocate, List.map_map, List.filterMap_map, List.filterMap_map]
  refine List.filterMap_congr fun p _ => ?_
  change (if (movedTo source target p.1).dropLast == l then (movedTo source target p.1).getLast? else none) =
    if p.1.dropLast == l then p.1.getLast? else none
  by_cases inside : source <+: p.1
  · obtain ⟨r, whole⟩ := inside
    rw [← whole, movedTo_append,
      nameIn_eq_none fun name same => apart' name (same ▸ List.prefix_append target r),
      nameIn_eq_none fun name same => apart name (same ▸ List.prefix_append source r)]
  · rw [movedTo_of_notPrefix inside]

theorem moved_relocate (apart : Apart source target) (sourceBelow : source ≠ [])
    (targetBelow : target ≠ []) : Moved source target fs ((fs.cut target).relocate source target) := by
  refine ⟨rfl, fun r => ?_, fun k outside => ?_, fun l outside outside' => ?_⟩
  · rw [entry?_relocate_append sourceBelow targetBelow fun k inside => ?_, entry?_cut targetBelow, if_neg]
    · rintro ⟨r', same⟩
      exact apart.append_ne r r' same.symm
    · rw [entry?_cut targetBelow, if_pos inside]
  · rw [entry?_relocate_of_notPrefix sourceBelow outside, entry?_cut targetBelow, if_neg outside]
  · rw [namesIn_relocate outside outside', namesIn_cut outside']

theorem movedTo_inj {k' : Location} (outside : ¬ target <+: k) (outside' : ¬ target <+: k')
    (same : movedTo source target k = movedTo source target k') : k = k' := by
  by_cases inside : source <+: k <;> by_cases inside' : source <+: k'
  · obtain ⟨r, rfl⟩ := inside
    obtain ⟨r', rfl⟩ := inside'
    rw [movedTo_append, movedTo_append] at same
    rw [List.append_cancel_left same]
  · obtain ⟨r, rfl⟩ := inside
    rw [movedTo_append, movedTo_of_notPrefix inside'] at same
    exact absurd ⟨r, same⟩ outside'
  · obtain ⟨r', rfl⟩ := inside'
    rw [movedTo_append, movedTo_of_notPrefix inside] at same
    exact absurd ⟨r', same.symm⟩ outside
  · rwa [movedTo_of_notPrefix inside, movedTo_of_notPrefix inside'] at same

theorem WellFormed.relocate (wf : fs.WellFormed) (isName : IsName name)
    (home : fs.entry? d = some .directory) (sourceBelow : source ≠ []) (notInside : ¬ source <+: d)
    (apart : Apart source (d ++ [name])) :
    ((fs.cut (d ++ [name])).relocate source (d ++ [name])).WellFormed := by
  have moved : Moved source (d ++ [name]) fs _ := moved_relocate apart sourceBelow (by simp)
  have outside : ∀ k e, (k, e) ∈ (fs.cut (d ++ [name])).entries → ¬ d ++ [name] <+: k := fun k e member => by
    have kept := (List.mem_filter.1 member).2
    rw [Bool.not_eq_true'] at kept
    rw [← List.isPrefixOf_iff_prefix, kept]
    exact Bool.false_ne_true
  refine ⟨?_, fun k e member => ?_⟩
  · rw [entries_relocate, List.map_map]
    change (List.map (movedTo source (d ++ [name]) ∘ fun q : Location × Entry => q.1) _).Nodup
    rw [← List.map_map]
    refine List.Nodup.map_on (fun k here k' here' => ?_)
      (wf.nodup.sublist ((List.filter_sublist).map _))
    obtain ⟨⟨_, e⟩, member, rfl⟩ := List.mem_map.1 here
    obtain ⟨⟨_, e'⟩, member', rfl⟩ := List.mem_map.1 here'
    exact movedTo_inj (outside _ e member) (outside _ e' member')
  · obtain ⟨⟨k₀, e₀⟩, there, same⟩ := List.mem_map.1 member
    obtain ⟨rfl, rfl⟩ := Prod.mk.inj same
    obtain ⟨d₀, name₀, rfl, isName₀, home₀⟩ := wf.housed k₀ e₀ (mem_of_mem_cut there)
    have notThere := outside _ _ there
    change ∃ directory name', movedTo source (d ++ [name]) (d₀ ++ [name₀]) = directory ++ [name'] ∧ _
    by_cases inside : source <+: d₀ ++ [name₀]
    · rcases List.prefix_concat_iff.1 inside with rfl | ⟨r, rfl⟩
      · -- the entry itself is moved
        refine ⟨d, name, ?_, isName, ?_⟩
        · have := movedTo_append (d₀ ++ [name₀]) (d ++ [name]) []
          rwa [List.append_nil, List.append_nil] at this
        · rw [moved.others d fun h => ?_, if_neg notInside, home]
          exact absurd h.length_le (by simp)
      · refine ⟨d ++ [name] ++ r, name₀, ?_, isName₀, ?_⟩
        · rw [List.append_assoc source, movedTo_append, ← List.append_assoc]
        · rw [moved.arrived, home₀]
    · refine ⟨d₀, name₀, movedTo_of_notPrefix inside, isName₀, ?_⟩
      rw [moved.others d₀ fun h => notThere (h.trans (List.prefix_append d₀ [name₀])),
        if_neg fun h => inside (h.trans (List.prefix_append d₀ [name₀])), home₀]

theorem WellFormed.rename (wf : fs.WellFormed) (renamed : fs.rename old new = .ok fs') :
    fs'.WellFormed := by
  obtain ⟨source, target, e, -, found, -, named, -, -, inside, above, ⟨-, rfl⟩ | ⟨other, -, rfl⟩⟩ :=
    rename_eq_ok renamed
  · exact wf
  · obtain ⟨isName, home⟩ := slotOf_housed found named
    exact wf.relocate isName home (by simp [Slot.location]) inside (apart_concat inside above other)

end FileSystem

end SchemaHistory
