import SchemaHistory.Proofs.Text.Mark
import SchemaHistory.Sql.Target
import SchemaHistory.Proofs.Script.Plain

/-!
Words of a statement, whatever the case of their letters.

A text spells a word when the two are the same letter for letter, and it mentions a word when it spells
it somewhere. A clause is looked for by its words, each with blanks behind it, and what follows a word is
a part of the text.
-/

namespace SchemaHistory.Sql

variable {w spelled cs rest : List Char} {word : String} {c d k : Char}

/-- The letter that a character is, whatever its case. -/
def letter (c : Char) : Nat := foldCode c.toNat

theorem sameLetter_iff : sameLetter c d = true ↔ letter c = letter d := beq_iff_eq

/-- A text is a word, in whatever case. -/
def Spells (w spelled : List Char) : Prop := w.map letter = spelled.map letter

theorem Spells.refl (w : List Char) : Spells w w := rfl

theorem Spells.length_eq (spells : Spells w spelled) : w.length = spelled.length := by
  simpa using congrArg List.length spells

/-- A word is read where it is spelled. -/
theorem word?_append (spells : Spells w spelled) (rest : List Char) :
    word? w (spelled ++ rest) = some (spelled, rest) := by
  induction w generalizing spelled with
  | nil =>
    rw [List.map_eq_nil_iff.1 spells.symm]
    rfl
  | cons k ks ih =>
    cases spelled with
    | nil => simp [Spells] at spells
    | cons c cs =>
      obtain ⟨same, spells⟩ := List.cons.inj spells
      rw [List.cons_append, word?, if_pos (sameLetter_iff.2 same), ih spells]
      rfl

/-- What is read as a word spells it. -/
theorem spells_of_word? (read : word? w cs = some (spelled, rest)) :
    Spells w spelled ∧ cs = spelled ++ rest := by
  induction w generalizing cs spelled with
  | nil =>
    obtain ⟨rfl, rfl⟩ := Prod.mk.inj (Option.some.inj read)
    exact ⟨rfl, rfl⟩
  | cons k ks ih =>
    cases cs with
    | nil => simp [word?] at read
    | cons c cs =>
      rw [word?, Option.ite_none_right_eq_some] at read
      obtain ⟨same, read⟩ := read
      obtain ⟨⟨_, _⟩, later, split⟩ := Option.map_eq_some_iff.1 read
      obtain ⟨rfl, rfl⟩ := Prod.mk.inj split
      obtain ⟨spells, rfl⟩ := ih later
      exact ⟨congrArg₂ List.cons (sameLetter_iff.1 same) spells, rfl⟩

/-- A phrase is read word by word, each with blanks behind it. -/
theorem phrase?_cons {words : List String} (spells : Spells word.toList spelled)
    (blank : isBlank c = true) (rest : List Char) :
    phrase? (word :: words) (spelled ++ c :: rest) = phrase? words (trimStart rest) := by
  rw [phrase?, word?_append spells]
  simp [blanks?, blank]

/-- Blanks are read where there is one. -/
theorem exists_of_blanks? (read : blanks? cs = some rest) :
    ∃ c cs', cs = c :: cs' ∧ isBlank c = true ∧ rest = trimStart cs' := by
  cases cs with
  | nil => simp [blanks?] at read
  | cons c cs =>
    rw [blanks?, Option.ite_none_right_eq_some] at read
    exact ⟨c, cs, rfl, read.1, (Option.some.inj read.2).symm⟩

/-- What starts with a phrase starts with its first word and a blank. -/
theorem exists_prefix_of_phrase? {words : List String} (read : phrase? (word :: words) cs = some rest) :
    ∃ spelled c, Spells word.toList spelled ∧ isBlank c = true ∧ spelled ++ [c] <+: cs := by
  rw [phrase?, Option.bind_eq_bind, Option.bind_eq_some_iff] at read
  obtain ⟨⟨spelled, after⟩, first, read⟩ := read
  obtain ⟨spells, rfl⟩ := spells_of_word? first
  obtain ⟨behind, blanks, -⟩ := Option.bind_eq_some_iff.1 read
  obtain ⟨c, after, rfl, blank, -⟩ := exists_of_blanks? blanks
  exact ⟨spelled, c, spells, blank, after, List.append_assoc ..⟩

/-- What follows blanks is less than the text. -/
theorem suffix_of_blanks? (read : blanks? cs = some rest) : rest <:+ cs.tail := by
  obtain ⟨c, cs, rfl, -, rfl⟩ := exists_of_blanks? read
  exact List.dropWhile_suffix _

theorem suffix_of_phrase? {words : List String} (read : phrase? words cs = some rest) : rest <:+ cs := by
  induction words generalizing cs with
  | nil =>
    obtain rfl := Option.some.inj read
    exact List.suffix_rfl
  | cons word words ih =>
    rw [phrase?, Option.bind_eq_bind, Option.bind_eq_some_iff] at read
    obtain ⟨⟨spelled, after⟩, first, read⟩ := read
    obtain ⟨-, rfl⟩ := spells_of_word? first
    obtain ⟨behind, blanks, read⟩ := Option.bind_eq_some_iff.1 read
    exact (ih read).trans ((suffix_of_blanks? blanks).trans
      ((List.tail_suffix after).trans (List.suffix_append spelled after)))

theorem getD_phrase?_nil (words : List String) : (phrase? words []).getD [] = [] := by
  cases words with
  | nil => rfl
  | cons word words =>
    rw [phrase?]
    cases word.toList <;> rfl

/-! ### Words and blanks -/

/-- The code points of the blanks. -/
def blankCodes : List Nat :=
  [9, 10, 11, 12, 13, 32, 0x85, 0xA0, 0x1680, 0x2000, 0x2001, 0x2002, 0x2003, 0x2004, 0x2005, 0x2006,
    0x2007, 0x2008, 0x2009, 0x200A, 0x2028, 0x2029, 0x202F, 0x205F, 0x3000]

theorem toNat_mem_blankCodes (blank : isBlank c = true) : c.toNat ∈ blankCodes := by
  simp only [isBlank, CharSet.contains, CharSet.containsCode, blanks, List.any_cons, List.any_nil,
    Bool.or_false, Bool.or_eq_true, Bool.and_eq_true, decide_eq_true_eq] at blank
  simp only [blankCodes, List.mem_cons, List.not_mem_nil, or_false]
  omega

/-- A blank has no cases. -/
theorem letter_mem_blankCodes (blank : isBlank c = true) : letter c ∈ blankCodes := by
  have same : ∀ n ∈ blankCodes, foldCode n ∈ blankCodes := by decide
  exact same _ (toNat_mem_blankCodes blank)

/-- A text that starts with a word of letters starts with no blank. -/
theorem trimStart_spelled_append (spells : Spells w spelled)
    (letters : ∀ c ∈ w.head?, letter c ∉ blankCodes) (nonempty : w ≠ []) (rest : List Char) :
    trimStart (spelled ++ rest) = spelled ++ rest := by
  obtain ⟨k, ks, rfl⟩ := List.exists_cons_of_ne_nil nonempty
  cases spelled with
  | nil => simp [Spells] at spells
  | cons c cs =>
    have same : letter k = letter c := (List.cons.inj spells).1
    refine List.dropWhile_cons_of_neg fun blank => letters k rfl ?_
    rw [same]
    exact letter_mem_blankCodes blank

/-- A word has no blanks in it. -/
def isSolid (w : List Char) : Bool := w.all fun k => !blankCodes.contains (letter k)

theorem sameLetter_eq_false (solid : isSolid w = true) (member : k ∈ w) (blank : isBlank c = true) :
    sameLetter k c = false := by
  have outside := List.all_eq_true.1 solid k member
  rw [Bool.eq_false_iff, Ne, sameLetter_iff]
  intro same
  rw [same] at outside
  simp [letter_mem_blankCodes blank] at outside

/-- No word is read at a blank. -/
theorem word?_blank_cons (solid : isSolid w = true) (nonempty : w ≠ []) (blank : isBlank c = true)
    (cs : List Char) : word? w (c :: cs) = none := by
  obtain ⟨k, ks, rfl⟩ := List.exists_cons_of_ne_nil nonempty
  rw [word?, sameLetter_eq_false solid List.mem_cons_self blank]
  rfl

/-- No phrase is read at a blank. -/
theorem phrase?_blank_cons (solid : isSolid word.toList = true)
    (nonempty : word.toList ≠ []) (words : List String) (blank : isBlank c = true) (cs : List Char) :
    phrase? (word :: words) (c :: cs) = none := by
  rw [phrase?, word?_blank_cons solid nonempty blank]
  rfl

/-! ### Texts that mention a word -/

/-- Somewhere in the text the word is spelled. -/
def Mentions (word : String) (cs : List Char) : Prop :=
  word.toList.map letter <:+: cs.map letter

instance (word : String) (cs : List Char) : Decidable (Mentions word cs) :=
  inferInstanceAs (Decidable (word.toList.map letter <:+: cs.map letter))

end SchemaHistory.Sql
