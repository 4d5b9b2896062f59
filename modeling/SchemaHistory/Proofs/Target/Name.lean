import SchemaHistory.Proofs.Target.Word

/-!
Names in a statement.

A name is read as the longest run of its characters, and a quote before it or behind it is passed over.
Where a text starts with a name in this sense, that name is the one that is read, and where it starts
with none, none is read.
-/

namespace SchemaHistory.Sql

/-! ### The characters of names -/

/-- No name starts with a blank. -/
theorem startsName_of_isBlank {c : Char} (blank : isBlank c = true) : startsName c = false := by
  have none : ∀ n ∈ blankCodes, startsName (Char.ofNat n) = false := by decide
  rw [← c.ofNat_toNat]
  exact none _ (toNat_mem_blankCodes blank)

/-- No name goes on with a blank. -/
theorem continuesName_of_isBlank {c : Char} (blank : isBlank c = true) : continuesName c = false := by
  have none : ∀ n ∈ blankCodes, continuesName (Char.ofNat n) = false := by decide
  rw [← c.ofNat_toNat]
  exact none _ (toNat_mem_blankCodes blank)

theorem isQuote_of_isBlank {c : Char} (blank : isBlank c = true) : isQuote c = false := by
  have none : ∀ n ∈ blankCodes, isQuote (Char.ofNat n) = false := by decide
  rw [← c.ofNat_toNat]
  exact none _ (toNat_mem_blankCodes blank)

/-- The code points of the quotes. -/
def quoteCodes : List Nat := [0x60, 0x22, 0x27]

theorem toNat_mem_quoteCodes {c : Char} (quote : isQuote c = true) : c.toNat ∈ quoteCodes := by
  simp only [isQuote, Bool.or_eq_true, beq_iff_eq] at quote
  rcases quote with (code | rfl) | code <;> simp [quoteCodes, *]

/-- No name starts with a quote. -/
theorem startsName_of_isQuote {c : Char} (quote : isQuote c = true) : startsName c = false := by
  have none : ∀ n ∈ quoteCodes, startsName (Char.ofNat n) = false := by decide
  rw [← c.ofNat_toNat]
  exact none _ (toNat_mem_quoteCodes quote)

/-- No name goes on with a quote. -/
theorem continuesName_of_isQuote {c : Char} (quote : isQuote c = true) : continuesName c = false := by
  have none : ∀ n ∈ quoteCodes, continuesName (Char.ofNat n) = false := by decide
  rw [← c.ofNat_toNat]
  exact none _ (toNat_mem_quoteCodes quote)

/-! ### Identifiers -/

/-- A letter or an underscore, and letters, digits and underscores behind it. -/
structure Identifier where
  first : Char
  rest : List Char
  starts : startsName first = true
  continues : ∀ c ∈ rest, continuesName c = true

namespace Identifier

variable {n m : Identifier} {cs after : List Char} {q : Char}

/-- An identifier from its first character and the others. -/
def ofChars (first : Char) (rest : String)
    (allowed : startsName first = true ∧ rest.toList.all continuesName = true) : Identifier :=
  ⟨first, rest.toList, allowed.1, List.all_eq_true.1 allowed.2⟩

/-- The characters of an identifier. -/
def chars (n : Identifier) : List Char := n.first :: n.rest

/-- An identifier as it is written. -/
def spelling (n : Identifier) : String := String.ofList n.chars

/-- An identifier in small letters. -/
def text (n : Identifier) : String := nameText n.chars

/-- A text starts with an identifier that does not go on behind it. -/
def Leads (n : Identifier) (cs : List Char) : Prop :=
  ∃ after, cs = n.chars ++ after ∧ ∀ c ∈ after.head?, continuesName c = false

/-- A text starts with an identifier, with or without a quote before it. -/
def Opens (n : Identifier) (cs : List Char) : Prop :=
  n.Leads cs ∨ ∃ q rest, isQuote q = true ∧ cs = q :: rest ∧ n.Leads rest

theorem continuesName_of_mem_chars {c : Char} (member : c ∈ n.chars) : continuesName c = true := by
  rcases List.mem_cons.1 member with rfl | inside
  · rw [continuesName, n.starts]
    rfl
  · exact n.continues c inside

theorem dropQuote_chars_append (n : Identifier) (after : List Char) :
    dropQuote (n.chars ++ after) = n.chars ++ after := by
  have plain : isQuote n.first = false := by
    rw [Bool.eq_false_iff]
    intro quote
    exact absurd n.starts (by rw [startsName_of_isQuote quote]; simp)
  rw [chars, List.cons_append, dropQuote, plain]
  rfl

theorem trimStart_chars_append (n : Identifier) (after : List Char) :
    trimStart (n.chars ++ after) = n.chars ++ after := by
  refine List.dropWhile_cons_of_neg ?_
  intro blank
  exact absurd n.starts (by rw [startsName_of_isBlank blank]; simp)

/-- An identifier is read up to the first character that does not go on with it. -/
theorem name?_append (n : Identifier) (ends : ∀ c ∈ after.head?, continuesName c = false) :
    name? (n.chars ++ after) = some (n.chars, dropQuote after) := by
  have run : (n.rest ++ after).takeWhile continuesName = n.rest := by
    rw [List.takeWhile_append_of_pos n.continues]
    cases after with
    | nil => simp
    | cons c _ => simp [ends c rfl]
  have left : (n.rest ++ after).dropWhile continuesName = after := by
    rw [List.dropWhile_append_of_pos n.continues]
    cases after with
    | nil => rfl
    | cons c _ => simp [ends c rfl]
  rw [name?, n.dropQuote_chars_append, chars, List.cons_append]
  simp only [n.starts, if_true, run, left]

theorem name?_of_opens (opens : n.Opens cs) : ∃ after, name? cs = some (n.chars, after) := by
  rcases opens with ⟨after, rfl, ends⟩ | ⟨q, _, quote, rfl, after, rfl, ends⟩
  · exact ⟨_, n.name?_append ends⟩
  · have same : name? (q :: (n.chars ++ after)) = name? (n.chars ++ after) := by
      rw [name?, name?, dropQuote, if_pos quote, n.dropQuote_chars_append]
    exact ⟨_, same.trans (n.name?_append ends)⟩

end Identifier

/-- What is read as a name is an identifier that the text starts with. -/
theorem exists_opens_of_name? {cs chars after : List Char} (read : name? cs = some (chars, after)) :
    ∃ n : Identifier, n.chars = chars ∧ n.Opens cs := by
  rw [name?] at read
  split at read
  · rename_i c rest unquoted
    rw [Option.ite_none_right_eq_some] at read
    obtain ⟨starts, read⟩ := read
    obtain ⟨rfl, -⟩ := Prod.mk.inj (Option.some.inj read)
    let n : Identifier :=
      ⟨c, rest.takeWhile continuesName, starts, List.all_eq_true.1 List.all_takeWhile⟩
    have leads : n.Leads (c :: rest) := by
      refine ⟨rest.dropWhile continuesName, ?_, fun d head => ?_⟩
      · simp [n, Identifier.chars]
      · have := List.head?_dropWhile_not continuesName rest
        rwa [Option.mem_def.1 head] at this
    refine ⟨n, rfl, ?_⟩
    cases cs with
    | nil => simp [dropQuote] at unquoted
    | cons q cs =>
      rw [dropQuote] at unquoted
      split at unquoted
      · rename_i quote
        exact Or.inr ⟨q, cs, quote, rfl, unquoted ▸ leads⟩
      · exact Or.inl (unquoted ▸ leads)
  · exact absurd read (Option.some_ne_none _).symm

/-- No name is read where a text starts with no identifier. -/
theorem name?_eq_none_iff {cs : List Char} : name? cs = none ↔ ∀ n : Identifier, ¬ n.Opens cs := by
  constructor
  · intro none n opens
    obtain ⟨after, read⟩ := Identifier.name?_of_opens opens
    rw [none] at read
    exact absurd read (Option.some_ne_none _).symm
  · intro never
    cases read : name? cs with
    | none => rfl
    | some found =>
      obtain ⟨n, -, opens⟩ := exists_opens_of_name? read
      exact absurd opens (never n)

/-! ### What follows a name -/

theorem dropQuote_suffix (cs : List Char) : dropQuote cs <:+ cs := by
  cases cs with
  | nil => exact List.suffix_rfl
  | cons c cs =>
    rw [dropQuote]
    split
    · exact List.suffix_cons c cs
    · exact List.suffix_rfl

theorem suffix_of_name? {cs name rest : List Char} (read : name? cs = some (name, rest)) :
    rest <:+ cs := by
  rw [name?] at read
  split at read
  · rename_i c after unquoted
    rw [Option.ite_none_right_eq_some] at read
    obtain ⟨-, rfl⟩ := Prod.mk.inj (Option.some.inj read.2)
    have inside : c :: after <:+ cs := unquoted ▸ dropQuote_suffix cs
    exact (dropQuote_suffix _).trans ((List.dropWhile_suffix _).trans
      ((List.suffix_cons c after).trans inside))
  · exact absurd read (Option.some_ne_none _).symm

end SchemaHistory.Sql
