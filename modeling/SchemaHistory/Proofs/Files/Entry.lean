import Mathlib.Data.List.Infix
import SchemaHistory.FileSystem.Change

/-!
What is at a location after a change.

Putting an entry changes one location, cutting empties a location and all below it, and relocating takes
what is at a location and below it to another one. The names in a directory are listed as before if
nothing in it changes.
-/

namespace SchemaHistory

/-! ### Looking up a list of pairs -/

section Lookup

variable {α β : Type} [BEq α] [LawfulBEq α] {l : List (α × β)} {a k k' : α} {b : β}

theorem mem_of_lookup_eq_some (found : l.lookup a = some b) : (a, b) ∈ l := by
  obtain ⟨before, after, rfl, -⟩ := List.lookup_eq_some_iff.1 found
  simp

theorem isSome_lookup_iff : (l.lookup a).isSome = true ↔ a ∈ l.map (·.1) := by
  rw [List.lookup_isSome_iff, List.mem_map]
  constructor
  · rintro ⟨p, member, same⟩
    exact ⟨p, member, (eq_of_beq same).symm⟩
  · rintro ⟨p, member, rfl⟩
    exact ⟨p, member, beq_self_eq_true _⟩

theorem lookup_cons_of_ne (other : k ≠ a) : ((a, b) :: l).lookup k = l.lookup k := by
  rw [List.lookup_cons, beq_eq_false_iff_ne.2 other]

theorem lookup_filter_key (q : α → Bool) (k : α) :
    (l.filter fun p => q p.1).lookup k = if q k then l.lookup k else none := by
  induction l with
  | nil => simp
  | cons p rest ih =>
    obtain ⟨key, value⟩ := p
    by_cases same : k = key
    · subst same
      cases kept : q k with
      | true => simp [kept]
      | false => simp [kept, ih]
    · rw [lookup_cons_of_ne same, ← ih, List.filter_cons]
      split
      · exact lookup_cons_of_ne same
      · rfl

/-- Pairs whose keys are changed, as far as a key is the change of only one. -/
theorem lookup_map_key {φ : α → α} (only : ∀ p ∈ l, φ p.1 = k ↔ p.1 = k') :
    (l.map fun p => (φ p.1, p.2)).lookup k = l.lookup k' := by
  induction l with
  | nil => rfl
  | cons p rest ih =>
    obtain ⟨key, value⟩ := p
    rw [List.forall_mem_cons] at only
    rw [List.map_cons]
    by_cases same : key = k'
    · have changed : φ key = k := only.1.2 same
      simp [← changed, same]
    · rw [lookup_cons_of_ne (Ne.symm same), ← ih only.2]
      exact lookup_cons_of_ne fun changed => same (only.1.1 changed.symm)

theorem lookup_map_value (b : β) (k : α) :
    (l.map fun p => (p.1, if p.1 == a then b else p.2)).lookup k =
      if k == a then (l.lookup a).map fun _ => b else l.lookup k := by
  induction l with
  | nil => simp
  | cons p rest ih =>
    obtain ⟨key, value⟩ := p
    rw [List.map_cons]
    by_cases here : k = key
    · subst here
      by_cases there : k = a
      · subst there
        simp
      · simp [there]
    · rw [lookup_cons_of_ne here, lookup_cons_of_ne here, ih]
      by_cases there : k = a
      · subst there
        rw [lookup_cons_of_ne here]
      · rw [beq_eq_false_iff_ne.2 there]
        rfl

end Lookup

namespace FileSystem

variable {fs : FileSystem} {l k old new : Location} {e e' : Entry}

theorem entry?_of_ne_nil (fs : FileSystem) (below : l ≠ []) : fs.entry? l = fs.entries.lookup l := by
  rw [FileSystem.entry?, if_neg (by simpa using below)]

/-! ### Putting -/

theorem entries_put (fs : FileSystem) (l : Location) (e : Entry) : (fs.put l e).entries =
    if (fs.entries.lookup l).isSome then fs.entries.map fun p => (p.1, if p.1 == l then e else p.2)
    else fs.entries ++ [(l, e)] := by
  rw [put]
  split <;> rfl

theorem workingDirectory_put (fs : FileSystem) (l : Location) (e : Entry) :
    (fs.put l e).workingDirectory = fs.workingDirectory := by
  rw [put]
  split <;> rfl

theorem entry?_put (below : l ≠ []) (e : Entry) (k : Location) :
    entry? (fs.put l e) k = if k = l then some e else fs.entry? k := by
  by_cases root : k = []
  · rw [root, if_neg below.symm]
    rfl
  · rw [entry?_of_ne_nil _ root, entry?_of_ne_nil _ root, entries_put]
    split
    · rename_i there
      obtain ⟨old, found⟩ := Option.isSome_iff_exists.1 there
      rw [lookup_map_value]
      by_cases same : k = l <;> simp [same, found]
    · rename_i missing
      rw [Option.not_isSome_iff_eq_none] at missing
      rw [List.lookup_append]
      by_cases same : k = l
      · simp [same, missing]
      · simp [same, List.lookup_cons, beq_eq_false_iff_ne.2 same]

theorem mem_of_mem_put (member : (k, e') ∈ (fs.put l e).entries) :
    (k, e') ∈ fs.entries ∨ k = l ∧ e' = e := by
  rw [entries_put] at member
  split at member
  · obtain ⟨p, old, same⟩ := List.mem_map.1 member
    obtain ⟨rfl, rfl⟩ := Prod.mk.inj same
    by_cases here : p.1 = l
    · exact Or.inr ⟨here, by simp [here]⟩
    · left
      rw [beq_eq_false_iff_ne.2 here]
      exact old
  · rcases List.mem_append.1 member with old | last
    · exact Or.inl old
    · exact Or.inr (Prod.mk.inj (List.mem_singleton.1 last))

/-! ### Cutting -/

theorem entry?_cut (below : l ≠ []) (k : Location) :
    entry? (fs.cut l) k = if l <+: k then none else fs.entry? k := by
  by_cases root : k = []
  · rw [root, if_neg (by simpa using below)]
    rfl
  · rw [entry?_of_ne_nil _ root, entry?_of_ne_nil _ root]
    change (fs.entries.filter fun p => !l.isPrefixOf p.1).lookup k = _
    rw [lookup_filter_key fun at_ => !l.isPrefixOf at_]
    by_cases inside : l <+: k
    · rw [if_pos inside, List.isPrefixOf_iff_prefix.2 inside]
      rfl
    · have outside : l.isPrefixOf k = false := by
        rw [Bool.eq_false_iff, Ne, List.isPrefixOf_iff_prefix]
        exact inside
      rw [if_neg inside, outside]
      rfl

theorem mem_of_mem_cut (member : (k, e) ∈ (fs.cut l).entries) : (k, e) ∈ fs.entries :=
  (List.mem_filter.1 member).1

/-! ### Relocating -/

/-- Where an entry goes that is at a location or below it, when that is moved. -/
def movedTo (old new k : Location) : Location :=
  if old.isPrefixOf k then new ++ k.drop old.length else k

theorem movedTo_append (old new r : Location) : movedTo old new (old ++ r) = new ++ r := by
  rw [movedTo, if_pos (List.isPrefixOf_iff_prefix.2 (List.prefix_append old r)), List.drop_left]

theorem movedTo_of_notPrefix (outside : ¬ old <+: k) : movedTo old new k = k := by
  rw [movedTo, if_neg (by rwa [List.isPrefixOf_iff_prefix])]

theorem entries_relocate (fs : FileSystem) (old new : Location) :
    (fs.relocate old new).entries = fs.entries.map fun p => (movedTo old new p.1, p.2) := rfl

/-- What is moved is found below its new location. -/
theorem entry?_relocate_append (oldBelow : old ≠ []) (newBelow : new ≠ [])
    (free : ∀ k, new <+: k → fs.entry? k = none) (r : Location) :
    entry? (fs.relocate old new) (new ++ r) = fs.entry? (old ++ r) := by
  rw [entry?_of_ne_nil _ (by simp [newBelow]), entry?_of_ne_nil _ (by simp [oldBelow]), entries_relocate]
  refine lookup_map_key fun p member => ⟨fun moved => ?_, fun same => same ▸ movedTo_append ..⟩
  by_cases inside : old <+: p.1
  · obtain ⟨s, whole⟩ := inside
    rw [← whole, movedTo_append] at moved
    rw [← whole, List.append_cancel_left moved]
  · -- nothing was at the new location before
    rw [movedTo_of_notPrefix inside] at moved
    have none := free p.1 (moved ▸ List.prefix_append new r)
    rw [entry?_of_ne_nil _ (by rw [moved]; simp [newBelow])] at none
    have there := isSome_lookup_iff.2 (List.mem_map_of_mem (f := (·.1)) member)
    rw [none] at there
    exact absurd there (by simp)

/-- Nothing is left at the old location, and all else stays. -/
theorem entry?_relocate_of_notPrefix (oldBelow : old ≠ []) (outside : ¬ new <+: k) :
    entry? (fs.relocate old new) k = if old <+: k then none else fs.entry? k := by
  by_cases root : k = []
  · rw [root, if_neg (by simpa using oldBelow)]
    rfl
  · rw [entry?_of_ne_nil _ root, entry?_of_ne_nil _ root, entries_relocate]
    split
    · rename_i inside
      rw [← Option.not_isSome_iff_eq_none, isSome_lookup_iff, List.map_map, List.mem_map]
      rintro ⟨p, -, moved⟩
      by_cases there : old <+: p.1
      · obtain ⟨s, whole⟩ := there
        rw [Function.comp_apply, ← whole, movedTo_append] at moved
        exact outside (moved ▸ List.prefix_append new s)
      · rw [Function.comp_apply, movedTo_of_notPrefix there] at moved
        exact there (moved ▸ inside)
    · rename_i apart
      refine lookup_map_key fun p _ => ⟨fun moved => ?_, fun same => ?_⟩
      · by_cases there : old <+: p.1
        · obtain ⟨s, whole⟩ := there
          rw [← whole, movedTo_append] at moved
          exact absurd (moved ▸ List.prefix_append new s) outside
        · rwa [movedTo_of_notPrefix there] at moved
      · rw [same, movedTo_of_notPrefix apart]

theorem exists_mem_of_mem_relocate (member : (k, e) ∈ (fs.relocate old new).entries) :
    ∃ k', (k', e) ∈ fs.entries := by
  obtain ⟨p, there, same⟩ := List.mem_map.1 member
  exact ⟨p.1, (Prod.mk.inj same).2 ▸ there⟩

end FileSystem

end SchemaHistory
