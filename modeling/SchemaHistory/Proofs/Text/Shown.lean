import Mathlib.Data.List.Infix
import SchemaHistory.Text.Bytes

/-!
Bytes that are shown as text.

Bytes that are no text are shown with replacement characters in place of what is not understood. So a shown
text has no byte that was not there but for those of the replacement character, and what is shown without
any such character is shown as it is.
-/

namespace SchemaHistory

namespace Bytes

variable {b : Bytes} {s : String} {c : Char} {x : UInt8}

/-! ### Bytes of texts -/

theorem ofString_append (s t : String) : ofString (s ++ t) = ofString s ++ ofString t := by
  rw [ofString, String.toByteArray_append, ByteArray.toList_data_append]
  rfl

theorem ofString_eq_flatMap (s : String) : ofString s = s.toList.flatMap String.utf8EncodeChar := by
  rw [ofString, ← String.utf8Encode_toList, List.utf8Encode, List.toList_data_toByteArray]

theorem ofString_injective : Function.Injective ofString := fun s t same => by
  rw [← Option.some_inj, ← text?_ofString s, same, text?_ofString]

theorem ofString_of_text? (read : text? b = some s) : ofString s = b := by
  rw [text?, String.fromUTF8?] at read
  split at read
  · rename_i valid
    obtain rfl := Option.some.inj read
    rfl
  · cases read

theorem ofString_shown (valid : (text? b).isSome = true) : ofString b.shown = b := by
  obtain ⟨s, read⟩ := Option.isSome_iff_exists.1 valid
  rw [shown, read, Option.getD_some, ofString_of_text? read]

theorem ofString_shown_of_none (invalid : text? b = none) :
    ofString b.shown = (shownChars b.length b).flatMap String.utf8EncodeChar := by
  rw [shown, invalid, Option.getD_none, ofString_eq_flatMap, String.toList_ofList]

/-! ### Shown characters -/

/-- The character that is shown for bytes that are none. -/
abbrev replacement : Char := Char.ofNat 0xFFFD

theorem utf8EncodeChar_replacement : String.utf8EncodeChar replacement = [0xEF, 0xBF, 0xBD] := by decide

/-- A shown character is the replacement character or what the bytes start with. -/
theorem shownChar_cases (b : Bytes) :
    shownChar b = replacement ∨ String.utf8EncodeChar (shownChar b) <+: b := by
  rw [shownChar]
  cases read : text? b with
  | none => exact Or.inl rfl
  | some s =>
    have whole := ofString_of_text? read
    rw [ofString_eq_flatMap] at whole
    rw [Option.bind_some]
    cases chars : s.toList with
    | nil => exact Or.inl rfl
    | cons c rest =>
      rw [chars, List.flatMap_cons] at whole
      exact Or.inr (whole ▸ List.prefix_append _ _)

theorem mem_of_mem_shownChars {fuel : Nat} (shows : c ∈ shownChars fuel b)
    (inside : x ∈ String.utf8EncodeChar c) : x ∈ b ∨ c = replacement := by
  induction fuel generalizing b with
  | zero => exact absurd shows List.not_mem_nil
  | succ fuel ih =>
    cases b with
    | nil => exact absurd shows List.not_mem_nil
    | cons first rest =>
      rw [shownChars, List.mem_cons] at shows
      rcases shows with rfl | later
      · refine (shownChar_cases _).symm.imp (fun start => ?_) id
        exact List.cons_subset_cons first (List.take_subset _ rest) (start.subset inside)
      · exact (ih later).imp (fun there => List.mem_cons_of_mem _ (List.mem_of_mem_drop there)) id

/-- A shown text has no other byte below 128 than what it shows. -/
theorem mem_of_mem_ofString_shown (small : x < 128) (inside : x ∈ ofString b.shown) : x ∈ b := by
  cases read : text? b with
  | some s => rwa [ofString_shown (by rw [read]; rfl)] at inside
  | none =>
    rw [ofString_shown_of_none read, List.mem_flatMap] at inside
    obtain ⟨c, shows, inside⟩ := inside
    rcases mem_of_mem_shownChars shows inside with there | rfl
    · exact there
    · rw [utf8EncodeChar_replacement] at inside
      simp only [List.mem_cons, List.not_mem_nil, or_false] at inside
      rcases inside with rfl | rfl | rfl <;> exact absurd small (by decide)

/-! ### Texts that are shown as they are -/

theorem lead?_of_small (small : x < 128) : lead? x = none := by
  rw [lead?]
  exact if_pos (Nat.lt_trans (UInt8.lt_iff_toNat_lt.1 small) (by decide))

theorem flatMap_shownChars_of_small {fuel : Nat} (enough : b.length ≤ fuel)
    (small : ∀ y ∈ (shownChars fuel b).flatMap String.utf8EncodeChar, y < 128) :
    (shownChars fuel b).flatMap String.utf8EncodeChar = b := by
  induction fuel generalizing b with
  | zero =>
    rw [List.eq_nil_of_length_eq_zero (Nat.le_zero.1 enough)]
    rfl
  | succ fuel ih =>
    cases b with
    | nil => rfl
    | cons first rest =>
      rw [shownChars] at small ⊢
      generalize length : ((lead? first).map (followers · rest)).getD 0 = n at small ⊢
      rw [List.flatMap_cons, List.forall_mem_append] at small
      -- the shown character has a first byte, which is the first byte of what is shown
      have start := (shownChar_cases (first :: rest.take n)).resolve_left fun shows => by
        rw [shows, utf8EncodeChar_replacement, List.forall_mem_cons] at small
        exact absurd small.1.1 (by decide)
      have nonempty := String.utf8EncodeChar_ne_nil (c := shownChar (first :: rest.take n))
      obtain ⟨y, ys, bytes⟩ := List.exists_cons_of_ne_nil nonempty
      rw [bytes, List.cons_prefix_cons] at start
      rw [bytes, List.forall_mem_cons] at small
      obtain ⟨rfl, start⟩ := start
      rw [lead?_of_small small.1.1] at length
      obtain rfl : 0 = n := length
      rw [List.take_zero, List.prefix_nil] at start
      rw [List.flatMap_cons, bytes, start, List.drop_zero, List.singleton_append]
      exact congrArg _ (ih (Nat.le_of_succ_le_succ enough) small.2)

/-- What is shown with small bytes only is shown as it is. -/
theorem ofString_shown_of_small (small : ∀ x ∈ ofString b.shown, x < 128) : ofString b.shown = b := by
  cases read : text? b with
  | some s => exact ofString_shown (by rw [read]; rfl)
  | none =>
    rw [ofString_shown_of_none read] at small ⊢
    exact flatMap_shownChars_of_small (Nat.le_refl _) small

end Bytes

end SchemaHistory
