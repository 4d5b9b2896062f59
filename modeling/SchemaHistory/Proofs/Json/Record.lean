import Mathlib.Data.List.Nodup
import SchemaHistory.Json.Record

/-!
The fields of a record that was written.

A record has each of its names once, so that looking for a name finds the one value that stands there, and
asking for all names in their order gives all values in theirs.
-/

namespace SchemaHistory.Json

variable {members : List (String × Json)} {name : String} {v : Json} {n : Nat}

/-- The members of a record, as an object has them. -/
def named (members : List (String × Json)) : List (Option String × Json) :=
  members.map fun (name, value) => (some name, value)

theorem record_eq_object_named (members : List (String × Json)) :
    record members = object (named members) := rfl

theorem valuesOf_cons (name : String) (m : Option String × Json) (members : List (Option String × Json)) :
    valuesOf name (m :: members) =
      if m.1 = some name then m.2 :: valuesOf name members else valuesOf name members := by
  rw [valuesOf, List.filter_cons]
  split <;> simp_all [valuesOf]

/-- There is nothing at a name that the record does not have. -/
theorem valuesOf_named_of_notMem (absent : name ∉ members.map (·.1)) :
    valuesOf name (named members) = [] := by
  rw [valuesOf, List.map_eq_nil_iff, List.filter_eq_nil_iff]
  intro m member same
  obtain ⟨⟨other, v⟩, inside, rfl⟩ := List.mem_map.1 member
  obtain rfl : other = name := by simpa using same
  exact absent (List.mem_map_of_mem inside)

/-- A name of the record has one value. -/
theorem valuesOf_named (distinct : (members.map (·.1)).Nodup) (member : (name, v) ∈ members) :
    valuesOf name (named members) = [v] := by
  induction members with
  | nil => exact absurd member List.not_mem_nil
  | cons m members ih =>
    obtain ⟨other, w⟩ := m
    rw [List.map_cons, List.nodup_cons] at distinct
    rw [named, List.map_cons, ← named, valuesOf_cons]
    rcases List.mem_cons.1 member with same | later
    · obtain ⟨rfl, rfl⟩ := Prod.mk.inj same
      rw [if_pos rfl, valuesOf_named_of_notMem distinct.1]
    · have differ : some other ≠ some name := by
        rintro same
        obtain rfl := Option.some.inj same
        exact distinct.1 (List.mem_map.2 ⟨_, later, rfl⟩)
      rw [if_neg differ, ih distinct.2 later]

/-- Without a name that it has in front, an object has the other members of the record. -/
theorem filter_named_cons (absent : name ∉ members.map (·.1)) :
    ((named ((name, v) :: members)).filter fun m => m.1 != some name) = named members := by
  rw [named, List.map_cons, List.filter_cons_of_neg (by simp), ← named, List.filter_eq_self]
  intro m member
  obtain ⟨⟨other, w⟩, inside, rfl⟩ := List.mem_map.1 member
  rw [bne_iff_ne]
  rintro same
  obtain rfl := Option.some.inj same
  exact absent (List.mem_map_of_mem inside)

theorem mapM_of_forall_some {α β : Type} {f : α → Option β} {g : α → β} {l : List α}
    (each : ∀ a ∈ l, f a = some (g a)) : l.mapM f = some (l.map g) := by
  induction l with
  | nil => rfl
  | cons a l ih =>
    rw [List.forall_mem_cons] at each
    simp [List.mapM_cons, each.1, ih each.2]

/-- The fields of a record are its values. -/
theorem fields?_record (distinct : (members.map (·.1)).Nodup) :
    (record members).fields? (members.map (·.1)) = some (members.map fun m => some m.2) := by
  have texts : ((named members).all fun m => m.1.isSome) = true := by simp [named]
  have values : (members.map (·.1)).mapM (field? (named members)) =
      some (members.map fun m => some m.2) := by
    rw [List.mapM_map]
    refine mapM_of_forall_some fun m member => ?_
    rw [Function.comp, field?, valuesOf_named distinct member]
  rw [record_eq_object_named, fields?, if_pos texts, values]

@[simp] theorem text?_text (s : String) : (text s).text? = some s := rfl

theorem nat64?_nat (small : n < UInt64.size) : (nat n).nat64? = some n := by
  simp [nat, nat64?, Numeral.natural?, Numeral.ofNat, Option.filter, small]

end SchemaHistory.Json
