import Mathlib.Data.List.Basic
import SchemaHistory.Text.Blank

/-!
The pieces of a text between cuts, as they add up: a cut parts the pieces before it from those behind it,
and where two texts meet without a cut, the last piece of the one goes on with the first of the other.
Joining puts the pieces together again.
-/

namespace SchemaHistory

section Pieces

variable {α : Type} {cut : α → Bool}

theorem pieces_ne_nil (cut : α → Bool) (l : List α) : pieces cut l ≠ [] := by
  cases l with
  | nil => exact List.cons_ne_nil _ _
  | cons c rest =>
    rw [pieces]
    split
    · exact List.cons_ne_nil _ _
    · cases pieces cut rest <;> exact List.cons_ne_nil _ _

theorem exists_pieces_eq_cons (cut : α → Bool) (l : List α) : ∃ m ms, pieces cut l = m :: ms :=
  List.exists_cons_of_ne_nil (pieces_ne_nil cut l)

theorem exists_pieces_eq_concat (cut : α → Bool) (l : List α) : ∃ ms m, pieces cut l = ms ++ [m] :=
  (List.eq_nil_or_concat' (pieces cut l)).resolve_left (pieces_ne_nil cut l)

theorem consPiece_append (c : α) {l : List (List α)} (nonempty : l ≠ []) (l' : List (List α)) :
    consPiece c (l ++ l') = consPiece c l ++ l' := by
  cases l with
  | nil => exact absurd rfl nonempty
  | cons => rfl

/-- The pieces on both sides of a cut. -/
theorem pieces_append_cons {x : α} (here : cut x = true) (a b : List α) :
    pieces cut (a ++ x :: b) = pieces cut a ++ pieces cut b := by
  induction a with
  | nil => simp [pieces, here]
  | cons c rest ih =>
    rw [List.cons_append, pieces, pieces, ih]
    split
    · rfl
    · exact consPiece_append c (pieces_ne_nil cut rest) _

/-- The pieces of two texts that meet without a cut. -/
theorem pieces_append {a b l m : List α} {ls ms : List (List α)} (ends : pieces cut a = ls ++ [l])
    (starts : pieces cut b = m :: ms) : pieces cut (a ++ b) = ls ++ (l ++ m) :: ms := by
  induction a generalizing ls l with
  | nil =>
    obtain ⟨rfl, rfl⟩ : ls = [] ∧ l = [] := by
      cases ls <;> simp_all [pieces]
    exact starts
  | cons c rest ih =>
    obtain ⟨ls', l', ends'⟩ := exists_pieces_eq_concat cut rest
    rw [pieces, ends'] at ends
    rw [List.cons_append, pieces, ih ends']
    split at ends
    · rename_i here
      rw [← List.cons_append] at ends
      obtain ⟨rfl, same⟩ := List.append_inj' ends rfl
      obtain ⟨rfl, -⟩ := List.cons.inj same
      rw [if_pos here]
      rfl
    · rename_i here
      rw [if_neg here]
      -- the new character goes to the first piece, which may be the last one too
      cases ls' with
      | nil =>
        rw [← List.nil_append (consPiece c _)] at ends
        obtain ⟨rfl, same⟩ := List.append_inj' ends rfl
        obtain ⟨rfl, -⟩ := List.cons.inj same
        rfl
      | cons p ps =>
        rw [List.cons_append, consPiece, ← List.cons_append] at ends
        obtain ⟨rfl, same⟩ := List.append_inj' ends rfl
        obtain ⟨rfl, -⟩ := List.cons.inj same
        rfl

/-- A list without cuts is a single piece. -/
theorem pieces_of_forall {l : List α} (whole : ∀ c ∈ l, cut c = false) : pieces cut l = [l] := by
  induction l with
  | nil => rfl
  | cons c rest ih =>
    rw [List.forall_mem_cons] at whole
    rw [pieces, whole.1, ih whole.2]
    rfl

theorem pieces_of_notMem [BEq α] [LawfulBEq α] {c : α} {l : List α} (absent : c ∉ l) :
    pieces (· == c) l = [l] :=
  pieces_of_forall fun _ member => beq_eq_false_iff_ne.2 fun same => absent (same ▸ member)

/-- A piece has no elements but those of the list. -/
theorem subset_of_mem_pieces {l p : List α} (member : p ∈ pieces cut l) : p ⊆ l := by
  induction l generalizing p with
  | nil => simp_all [pieces]
  | cons c rest ih =>
    obtain ⟨m, ms, split⟩ := exists_pieces_eq_cons cut rest
    rw [split] at ih
    have skip : rest ⊆ c :: rest := List.subset_cons_self c rest
    rw [pieces, split] at member
    split at member
    · rcases List.mem_cons.1 member with rfl | later
      · exact List.nil_subset _
      · exact List.Subset.trans (ih later) skip
    · rcases List.mem_cons.1 member with rfl | later
      · exact List.cons_subset_cons c (ih List.mem_cons_self)
      · exact List.Subset.trans (ih (List.mem_cons_of_mem _ later)) skip

/-- Joining the pieces of a list gives the list. -/
theorem intercalate_pieces [BEq α] [LawfulBEq α] (c : α) (l : List α) :
    List.intercalate [c] (pieces (· == c) l) = l := by
  induction l with
  | nil => rfl
  | cons d rest ih =>
    obtain ⟨m, ms, split⟩ := exists_pieces_eq_cons (· == c) rest
    rw [split] at ih
    rw [pieces, split]
    cases here : d == c with
    | true =>
      obtain rfl := eq_of_beq here
      rw [if_pos rfl, List.intercalate_cons_cons, ih]
      rfl
    | false =>
      rw [if_neg Bool.false_ne_true, consPiece]
      cases ms with
      | nil => simpa using ih
      | cons m' ms =>
        rw [List.intercalate_cons_cons] at ih ⊢
        rw [List.cons_append, List.cons_append, ih]

/-- No piece has a cut in it. -/
theorem notMem_of_mem_pieces [BEq α] [LawfulBEq α] {c : α} {l p : List α}
    (member : p ∈ pieces (· == c) l) : c ∉ p := by
  induction l generalizing p with
  | nil => simp_all [pieces]
  | cons d rest ih =>
    obtain ⟨m, ms, split⟩ := exists_pieces_eq_cons (· == c) rest
    rw [pieces, split] at member
    rw [split] at ih
    cases here : d == c with
    | true =>
      rw [here, if_pos rfl] at member
      rcases List.mem_cons.1 member with rfl | later
      · exact List.not_mem_nil
      · exact ih later
    | false =>
      rw [here, if_neg Bool.false_ne_true, consPiece] at member
      rcases List.mem_cons.1 member with rfl | later
      · rw [List.mem_cons, not_or]
        exact ⟨(beq_eq_false_iff_ne.1 here).symm, ih List.mem_cons_self⟩
      · exact ih (List.mem_cons_of_mem _ later)

/-- What is joined comes apart again, if the element in between is in none of the lists. -/
theorem pieces_intercalate [BEq α] [LawfulBEq α] {c : α} {ls : List (List α)} (nonempty : ls ≠ [])
    (absent : ∀ l ∈ ls, c ∉ l) : pieces (· == c) (List.intercalate [c] ls) = ls := by
  induction ls with
  | nil => exact absurd rfl nonempty
  | cons l ms ih =>
    rw [List.forall_mem_cons] at absent
    have whole : pieces (· == c) l = [l] := pieces_of_notMem absent.1
    cases ms with
    | nil => simpa using whole
    | cons m ms =>
      rw [List.intercalate_cons_cons, List.append_assoc, List.singleton_append, pieces_append_cons (by simp),
        whole, ih (List.cons_ne_nil _ _) absent.2]
      rfl

end Pieces

section Join

variable {c d : Char} {p : List Char} {ls : List (List Char)}

theorem joinWith_cons_cons (c : Char) (l m : List Char) (ms : List (List Char)) :
    joinWith c (l :: m :: ms) = l ++ c :: joinWith c (m :: ms) := by
  rw [joinWith, List.intercalate_cons_cons, List.append_assoc]
  rfl

/-- The first of the joined texts can be parted. -/
theorem joinWith_append_head (c : Char) (l m : List Char) (ms : List (List Char)) :
    joinWith c ((l ++ m) :: ms) = l ++ joinWith c (m :: ms) := by
  cases ms <;> simp [joinWith]

/-- Two joined lists have the character between them. -/
theorem joinWith_append {ms : List (List Char)} (nonempty : ls ≠ []) (nonempty' : ms ≠ []) :
    joinWith c (ls ++ ms) = joinWith c ls ++ c :: joinWith c ms := by
  obtain ⟨m, ms, rfl⟩ := List.exists_cons_of_ne_nil nonempty'
  induction ls with
  | nil => exact absurd rfl nonempty
  | cons l ls ih =>
    cases ls with
    | nil => simp [joinWith]
    | cons l' ls =>
      have behind := ih (List.cons_ne_nil _ _)
      rw [List.cons_append] at behind
      rw [List.cons_append, List.cons_append, joinWith_cons_cons, behind, joinWith_cons_cons,
        List.append_assoc]
      rfl

/-- Joined texts can be parted inside one of them. -/
theorem joinWith_append_cons (c : Char) (ls : List (List Char)) (l m : List Char)
    (ms : List (List Char)) :
    joinWith c (ls ++ (l ++ m) :: ms) = joinWith c (ls ++ [l]) ++ joinWith c (m :: ms) := by
  cases ls with
  | nil => simpa [joinWith] using joinWith_append_head c l m ms
  | cons p ps =>
    rw [joinWith_append (List.cons_ne_nil p ps) (List.cons_ne_nil _ ms), joinWith_append_head,
      joinWith_append (List.cons_ne_nil p ps) (List.cons_ne_nil l []), List.append_assoc]
    simp [joinWith]

/-- Joining the pieces of a text gives the text. -/
theorem joinWith_pieces (c : Char) (cs : List Char) : joinWith c (pieces (· == c) cs) = cs :=
  intercalate_pieces c cs

/-- Induction along the pieces of a text, from the last one to the first. -/
theorem induction_pieces {motive : List Char → Prop} (c : Char) (last : ∀ l, c ∉ l → motive l)
    (step : ∀ l rest, c ∉ l → motive rest → motive (l ++ c :: rest)) (cs : List Char) : motive cs := by
  have joined : ∀ ls : List (List Char), (∀ l ∈ ls, c ∉ l) → motive (joinWith c ls) := by
    intro ls absent
    induction ls with
    | nil => exact last [] List.not_mem_nil
    | cons l ms ih =>
      rw [List.forall_mem_cons] at absent
      cases ms with
      | nil => simpa [joinWith] using last l absent.1
      | cons m ms =>
        rw [joinWith_cons_cons]
        exact step l _ absent.1 (ih absent.2)
  rw [← joinWith_pieces c cs]
  exact joined _ fun _ => notMem_of_mem_pieces

/-- Joined texts come apart again, if the character in between is in none of them. -/
theorem pieces_joinWith (nonempty : ls ≠ []) (absent : ∀ l ∈ ls, c ∉ l) :
    pieces (· == c) (joinWith c ls) = ls :=
  pieces_intercalate nonempty absent

/-- A piece of a text stands between two cuts, or at an end of the text. -/
theorem exists_append_of_mem_pieces {cs : List Char} (member : p ∈ pieces (· == c) cs) :
    ∃ a b, cs = a ++ p ++ b ∧ (a = [] ∨ ∃ a', a = a' ++ [c]) ∧ (b = [] ∨ ∃ b', b = c :: b') := by
  obtain ⟨ls, ms, split⟩ := List.append_of_mem member
  have whole : cs = joinWith c (ls ++ [] ++ p :: ms) := by
    rw [List.append_nil, ← split, joinWith_pieces]
  have behind : ∃ b, joinWith c (p :: ms) = p ++ b ∧ (b = [] ∨ ∃ b', b = c :: b') := by
    cases ms with
    | nil => exact ⟨[], by simp [joinWith], Or.inl rfl⟩
    | cons m ms => exact ⟨_, joinWith_cons_cons c p m ms, Or.inr ⟨_, rfl⟩⟩
  obtain ⟨b, parted, ends⟩ := behind
  by_cases empty : ls = []
  · exact ⟨[], b, by rw [whole, empty, List.nil_append, List.nil_append, parted]; rfl, Or.inl rfl, ends⟩
  · refine ⟨joinWith c ls ++ [c], b, ?_, Or.inr ⟨_, rfl⟩, ends⟩
    rw [whole, List.append_nil, joinWith_append empty (List.cons_ne_nil _ _), parted]
    simp

/-- Each of the joined texts is a part of the whole. -/
theorem infix_joinWith (member : p ∈ ls) : p <:+: joinWith c ls := by
  induction ls with
  | nil => exact absurd member List.not_mem_nil
  | cons l ms ih =>
    cases ms with
    | nil => simp_all [joinWith]
    | cons m ms =>
      rw [joinWith_cons_cons]
      rcases List.mem_cons.1 member with rfl | later
      · exact List.infix_append_left ..
      · exact (ih later).trans ((List.suffix_cons c _).isInfix.trans List.infix_append_right)

theorem infix_of_mem_pieces {cs : List Char} (member : p ∈ pieces (· == c) cs) : p <:+: cs := by
  rw [← joinWith_pieces c cs]
  exact infix_joinWith member

/-- A character of the whole is the one in between, or it is in one of the joined texts. -/
theorem exists_mem_of_mem_joinWith (member : d ∈ joinWith c ls) (other : d ≠ c) :
    ∃ l ∈ ls, d ∈ l := by
  induction ls with
  | nil => exact absurd member List.not_mem_nil
  | cons l ms ih =>
    cases ms with
    | nil => simp_all [joinWith]
    | cons m ms =>
      rw [joinWith_cons_cons, List.mem_append, List.mem_cons] at member
      rcases member with here | rfl | later
      · exact ⟨l, List.mem_cons_self, here⟩
      · exact absurd rfl other
      · obtain ⟨l, member, inside⟩ := ih later
        exact ⟨l, List.mem_cons_of_mem _ member, inside⟩

end Join

end SchemaHistory
