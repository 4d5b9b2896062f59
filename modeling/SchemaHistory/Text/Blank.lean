import SchemaHistory.Text.CharSet

/-!
Blank characters, and texts trimmed of them, cut at them or cut into lines.

A character is blank when Unicode gives it the property White_Space. Cutting a text at every character
of a kind yields its pieces, one more than there are cuts; the words of a text are its pieces between
blanks that are not empty.
-/

namespace SchemaHistory

/-- The characters with the property White_Space. -/
def blanks : CharSet :=
  ⟨[(9, 13), (32, 32), (0x85, 0x85), (0xA0, 0xA0), (0x1680, 0x1680), (0x2000, 0x200A),
    (0x2028, 0x2029), (0x202F, 0x202F), (0x205F, 0x205F), (0x3000, 0x3000)]⟩

/-- Whether a character is a blank. -/
def isBlank (c : Char) : Bool := blanks.contains c

/-- Drops the blanks at the start. -/
def trimStart (cs : List Char) : List Char := cs.dropWhile isBlank

/-- Drops the blanks at the end. -/
def trimEnd (cs : List Char) : List Char := (cs.reverse.dropWhile isBlank).reverse

/-- Drops the blanks at both ends. -/
def trim (cs : List Char) : List Char := trimEnd (trimStart cs)

/-- Puts an element at the head of the first piece. -/
def consPiece {α : Type} (c : α) : List (List α) → List (List α)
  | [] => [[c]]
  | p :: ps => (c :: p) :: ps

/-- The pieces of a list between the elements where `cut` holds. -/
def pieces {α : Type} (cut : α → Bool) : List α → List (List α)
  | [] => [[]]
  | c :: rest => if cut c then [] :: pieces cut rest else consPiece c (pieces cut rest)

/-- The longest runs of characters that are not blank. -/
def words (cs : List Char) : List (List Char) := (pieces isBlank cs).filter (!·.isEmpty)

/-- The texts of a list, with one character between neighbours. -/
def joinWith (c : Char) (l : List (List Char)) : List Char := List.intercalate [c] l

/-- The text up to the first place where `mark` stands, and the text after that mark. -/
def cutAt (mark : List Char) : List Char → Option (List Char × List Char)
  | [] => if mark.isEmpty then some ([], []) else none
  | c :: rest =>
    if mark.isPrefixOf (c :: rest) then some ([], (c :: rest).drop mark.length)
    else (cutAt mark rest).map fun (before, after) => (c :: before, after)

/-- Cutting at a mark splits the text into what stands before it, the mark and what follows. -/
theorem length_of_cutAt {mark cs before after : List Char}
    (h : cutAt mark cs = some (before, after)) :
    before.length + mark.length + after.length = cs.length := by
  induction cs generalizing before with
  | nil =>
    cases mark with
    | nil =>
      simp only [cutAt, List.isEmpty_nil, if_true, Option.some.injEq, Prod.mk.injEq] at h
      simp [← h.1, ← h.2]
    | cons => simp [cutAt] at h
  | cons c rest ih =>
    rw [cutAt] at h
    split at h
    · rename_i hp
      have := (List.isPrefixOf_iff_prefix.1 hp).length_le
      simp only [Option.some.injEq, Prod.mk.injEq] at h
      rw [← h.1, ← h.2, List.length_nil, List.length_drop]
      omega
    · obtain ⟨⟨b, a⟩, hb, he⟩ := Option.map_eq_some_iff.1 h
      simp only [Prod.mk.injEq] at he
      have : b.length + mark.length + after.length = rest.length := ih (he.2 ▸ hb)
      simp [← he.1]
      omega

end SchemaHistory
