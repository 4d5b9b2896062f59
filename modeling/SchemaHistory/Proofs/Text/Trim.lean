import Mathlib.Data.List.Basic
import Mathlib.Data.List.TakeWhile
import SchemaHistory.Text.Blank

/-!
Blanks at the ends of a text, which trimming does not see.
-/

namespace SchemaHistory

variable {cs rest blank w : List Char}

theorem trimStart_eq_nil_iff : trimStart cs = [] ↔ cs.all isBlank = true := by
  rw [trimStart, List.dropWhile_eq_nil_iff, List.all_eq_true]

/-- Blanks before a text. -/
theorem trimStart_blank_append (blanks : blank.all isBlank = true) (cs : List Char) :
    trimStart (blank ++ cs) = trimStart cs :=
  List.dropWhile_append_of_pos (List.all_eq_true.1 blanks)

theorem trim_blank_append (blanks : blank.all isBlank = true) (cs : List Char) :
    trim (blank ++ cs) = trim cs := by
  rw [trim, trimStart_blank_append blanks, trim]

/-- Blanks behind a text. -/
theorem trim_append_blank (blanks : blank.all isBlank = true) (cs : List Char) :
    trim (cs ++ blank) = trim cs := by
  have behind : ∀ l : List Char, trimEnd (l ++ blank) = trimEnd l := by
    intro l
    rw [trimEnd, List.reverse_append, List.dropWhile_append_of_pos]
    · rfl
    · exact fun c member => List.all_eq_true.1 blanks c (List.mem_reverse.1 member)
  rw [trim, trimStart, List.dropWhile_append]
  split
  · rename_i nothing
    rw [List.isEmpty_iff] at nothing
    rw [trim, trimStart, nothing, show blank.dropWhile isBlank = [] from trimStart_eq_nil_iff.2 blanks]
  · rw [behind, trim, trimStart]

theorem trim_eq_nil_of_blank (blanks : blank.all isBlank = true) : trim blank = [] := by
  rw [trim, trimStart_eq_nil_iff.2 blanks]
  rfl

/-- A text has characters, and neither the first nor the last one is a blank. -/
structure Trimmed (cs : List Char) : Prop where
  nonempty : cs ≠ []
  first : ∀ c ∈ cs.head?, isBlank c = false
  last : ∀ c ∈ cs.getLast?, isBlank c = false

/-- Behind a text without blanks at its ends, trimming takes blanks from the end only. -/
theorem Trimmed.trim_append (trimmed : Trimmed cs) (rest : List Char) :
    trim (cs ++ rest) = cs ++ trimEnd rest := by
  have start : trimStart (cs ++ rest) = cs ++ rest := by
    obtain ⟨c, cs, rfl⟩ := List.exists_cons_of_ne_nil trimmed.nonempty
    exact List.dropWhile_cons_of_neg (by simp [trimmed.first c rfl])
  have stop : cs.reverse.dropWhile isBlank = cs.reverse := by
    obtain ⟨init, c, rfl⟩ := (List.eq_nil_or_concat' cs).resolve_left trimmed.nonempty
    rw [List.reverse_append]
    exact List.dropWhile_cons_of_neg (by simp [trimmed.last c (by simp)])
  rw [trim, start, trimEnd, List.reverse_append, List.dropWhile_append, stop, trimEnd]
  split
  · rename_i nothing
    rw [List.isEmpty_iff] at nothing
    rw [nothing, List.reverse_reverse, List.reverse_nil, List.append_nil]
  · rw [List.reverse_append, List.reverse_reverse]

theorem Trimmed.trim_eq (trimmed : Trimmed cs) : trim cs = cs := by
  have alone := trimmed.trim_append []
  rwa [List.append_nil, trimEnd, List.reverse_nil, List.dropWhile_nil, List.reverse_nil,
    List.append_nil] at alone

/-- What is left of a text without the blanks at its end is a start of it. -/
theorem trimEnd_isPrefix (cs : List Char) : trimEnd cs <+: cs := by
  rw [← List.reverse_suffix, trimEnd, List.reverse_reverse]
  exact List.dropWhile_suffix _

/-- What is left between the blanks at the ends of a text, if there is anything. -/
theorem trimmed_trim (nonempty : trim cs ≠ []) : Trimmed (trim cs) where
  nonempty := nonempty
  first c head := by
    obtain ⟨rest, whole⟩ := trimEnd_isPrefix (trimStart cs)
    obtain ⟨d, ds, split⟩ := List.exists_cons_of_ne_nil nonempty
    have start := List.head?_dropWhile_not isBlank cs
    rw [← trimStart, ← whole, ← trim, split] at start
    rw [split] at head
    obtain rfl : d = c := by simpa using head
    simpa using start
  last c last := by
    have stop := List.head?_dropWhile_not isBlank (trimStart cs).reverse
    rw [trim, trimEnd, List.getLast?_reverse] at last
    rw [Option.mem_def.1 last] at stop
    simpa using stop

theorem trim_infix (cs : List Char) : trim cs <:+: cs :=
  (trimEnd_isPrefix _).isInfix.trans (List.dropWhile_suffix _).isInfix

/-- What has no blanks in it is not lost with the blanks at the start of a text. -/
theorem infix_trimStart (visible : ∀ c ∈ w, isBlank c = false) (inside : w <:+: cs) :
    w <:+: trimStart cs := by
  induction cs with
  | nil => exact inside
  | cons c rest ih =>
    cases blank : isBlank c with
    | false => rwa [trimStart, List.dropWhile_cons_of_neg (by simp [blank])]
    | true =>
      rw [trimStart, List.dropWhile_cons_of_pos blank]
      rcases List.infix_cons_iff.1 inside with start | later
      · rcases List.prefix_cons_iff.1 start with rfl | ⟨t, rfl, -⟩
        · exact List.nil_infix
        · rw [visible c List.mem_cons_self] at blank
          exact absurd blank Bool.false_ne_true
      · exact ih later

theorem infix_trim (visible : ∀ c ∈ w, isBlank c = false) (inside : w <:+: cs) : w <:+: trim cs := by
  have start := infix_trimStart visible inside
  rw [← List.reverse_infix] at start
  rw [trim, trimEnd, ← List.reverse_infix, List.reverse_reverse]
  exact infix_trimStart (fun c member => visible c (List.mem_reverse.1 member)) start

end SchemaHistory
