import SchemaHistory.Proofs.Json.Scalar

/-!
The texts that spell a value, and that reading finds the value in each of them.

A value has many texts, which differ in the blanks around the items of its arrays and the members of its
objects. The reader takes any of them, whatever follows; the compact and the indented text are two of
them. Only numbers that are whole and not negative are spelled here, in digits.
-/

namespace SchemaHistory.Json

/-! ### Spelling -/

mutual

/-- A text spells a value, with blanks where the value has items or members. -/
inductive Spells : Json → List Char → Prop where
  | null : Spells null "null".toList
  | bool (b : Bool) : Spells (bool b) (boolText b)
  | nat (n : Nat) : Spells (nat n) (decimal n)
  | text (s : String) : Spells (text s) (quoted (some s))
  | emptyArray : Spells (array []) ['[', ']']
  | array {items : List Json} {cs : List Char} (inside : SpellsItems items cs) :
      Spells (array items) ('[' :: (cs ++ [']']))
  | emptyObject : Spells (object []) ['{', '}']
  | object {members : List (Option String × Json)} {cs : List Char}
      (inside : SpellsMembers members cs) : Spells (object members) ('{' :: (cs ++ ['}']))

/-- A text spells the items of an array, with commas between them. -/
inductive SpellsItems : List Json → List Char → Prop where
  | last {v : Json} {cs : List Char} (before after : List Char) (blank : before.all isSpace = true)
      (item : Spells v cs) (blank' : after.all isSpace = true) :
      SpellsItems [v] (before ++ (cs ++ after))
  | cons {v : Json} {vs : List Json} {cs : List Char} (before after later : List Char)
      (blank : before.all isSpace = true) (item : Spells v cs) (blank' : after.all isSpace = true)
      (others : SpellsItems vs later) :
      SpellsItems (v :: vs) (before ++ (cs ++ (after ++ ',' :: later)))

/-- A text spells the members of an object, with commas between them. -/
inductive SpellsMembers : List (Option String × Json) → List Char → Prop where
  | last {name : String} {v : Json} {cs : List Char} (before between after : List Char)
      (blank : before.all isSpace = true) (blank' : between.all isSpace = true)
      (value : Spells v cs) (blank'' : after.all isSpace = true) :
      SpellsMembers [(some name, v)]
        (before ++ (quoted (some name) ++ ':' :: (between ++ (cs ++ after))))
  | cons {name : String} {v : Json} {members : List (Option String × Json)} {cs : List Char}
      (before between after later : List Char) (blank : before.all isSpace = true)
      (blank' : between.all isSpace = true) (value : Spells v cs) (blank'' : after.all isSpace = true)
      (others : SpellsMembers members later) :
      SpellsMembers ((some name, v) :: members)
        (before ++ (quoted (some name) ++ ':' :: (between ++ (cs ++ (after ++ ',' :: later)))))

end

variable {v : Json} {cs blank rest : List Char} {c : Char} {fuel : Nat}

/-! ### Blanks -/

theorem skipSpace_blank_append (blanks : blank.all isSpace = true) (cs : List Char) :
    skipSpace (blank ++ cs) = skipSpace cs :=
  List.dropWhile_append_of_pos (List.all_eq_true.1 blanks)

theorem skipSpace_cons (full : isSpace c = false) (rest : List Char) :
    skipSpace (c :: rest) = c :: rest :=
  List.dropWhile_cons_of_neg (by simp [full])

theorem stops_blank_append (blanks : blank.all isSpace = true) (mark : c ∈ [',', ']', '}']) :
    Stops (blank ++ c :: rest) := by
  intro d head
  cases blank with
  | nil =>
    obtain rfl : c = d := by simpa using head
    simp_all
  | cons e blank =>
    obtain rfl : e = d := by simpa using head
    have space := List.all_eq_true.1 blanks e List.mem_cons_self
    simp only [isSpace, Bool.or_eq_true, beq_iff_eq] at space
    rcases space with ((rfl | rfl) | rfl) | rfl <;> decide

/-! ### How values start -/

/-- A spelled value starts with a character that is no blank and no closing bracket. -/
theorem Spells.exists_cons (spelled : Spells v cs) :
    ∃ c rest, cs = c :: rest ∧ isSpace c = false ∧ c ≠ ']' := by
  cases spelled with
  | null => exact ⟨'n', "ull".toList, rfl, by decide, by decide⟩
  | bool b =>
    cases b with
    | true => exact ⟨'t', "rue".toList, rfl, by decide, by decide⟩
    | false => exact ⟨'f', "alse".toList, rfl, by decide, by decide⟩
  | nat n =>
    obtain ⟨c, rest, split, digit⟩ := exists_decimal_eq_cons n
    have other : ∀ mark : Char, mark.isDigit = false → c ≠ mark := fun mark => ne_of_isDigit digit
    exact ⟨c, rest, split, by simp [isSpace, other], other ']' (by decide)⟩
  | text s => exact ⟨'"', _, rfl, by decide, by decide⟩
  | emptyArray => exact ⟨'[', _, rfl, by decide, by decide⟩
  | array => exact ⟨'[', _, rfl, by decide, by decide⟩
  | emptyObject => exact ⟨'{', _, rfl, by decide, by decide⟩
  | object => exact ⟨'{', _, rfl, by decide, by decide⟩

/-- Blanks before a value are left out. -/
theorem Spells.skipSpace_append (spelled : Spells v cs) (blanks : blank.all isSpace = true)
    (rest : List Char) : skipSpace (blank ++ (cs ++ rest)) = cs ++ rest := by
  obtain ⟨c, t, rfl, full, -⟩ := spelled.exists_cons
  rw [skipSpace_blank_append blanks, List.cons_append, skipSpace_cons full]

theorem Spells.exists_skipSpace_eq_cons (spelled : Spells v cs) (blanks : blank.all isSpace = true)
    (rest : List Char) : ∃ c t, skipSpace (blank ++ (cs ++ rest)) = c :: t ∧ c ≠ ']' := by
  obtain ⟨c, t, rfl, -, more⟩ := spelled.exists_cons
  exact ⟨c, t ++ rest, spelled.skipSpace_append blanks rest, more⟩

theorem skipSpace_quoted_append (s : String) (rest : List Char) :
    skipSpace (quoted (some s) ++ rest) = quoted (some s) ++ rest := by
  rw [quoted_some_append]
  exact skipSpace_cons rfl _

/-! ### Reading -/

theorem value?_of_isDigit (digit : c.isDigit = true) :
    value? (fuel + 1) (c :: rest) =
      (numeral? (c :: rest)).map fun (n, after) => (number n, after) := by
  have other : ∀ mark rest', mark.isDigit = false → c :: rest ≠ mark :: rest' :=
    fun mark rest' noDigit same => ne_of_isDigit digit noDigit (List.cons.inj same).1
  rw [value?]
  all_goals exact fun _ => other _ _ rfl

theorem value?_decimal (fuel n : Nat) (stops : Stops rest) :
    value? (fuel + 1) (decimal n ++ rest) = some (nat n, rest) := by
  have numeral := numeral?_decimal_append n stops
  obtain ⟨c, cs, split, digit⟩ := exists_decimal_eq_cons n
  rw [split, List.cons_append] at numeral
  rw [split, List.cons_append, value?_of_isDigit digit, numeral, nat, Option.map_some]

theorem value?_quoted (fuel : Nat) (s : String) (rest : List Char) :
    value? (fuel + 1) (quoted (some s) ++ rest) = some (text s, rest) := by
  rw [quoted_some_append, value?, stringFrom_escaped, text, Option.map_some]

theorem literal?_append (word : String) (rest : List Char) :
    literal? word (word.toList ++ rest) = some rest := by
  rw [literal?, if_pos (List.isPrefixOf_iff_prefix.2 (List.prefix_append _ _)),
    List.drop_left' String.length_toList]

theorem value?_null (fuel : Nat) (rest : List Char) :
    value? (fuel + 1) ("null".toList ++ rest) = some (null, rest) := by
  have read := literal?_append "null" rest
  have letters : "null".toList = 'n' :: "ull".toList := rfl
  rw [letters, List.cons_append] at read ⊢
  rw [value?, read, Option.map_some]

theorem value?_boolText (fuel : Nat) (b : Bool) (rest : List Char) :
    value? (fuel + 1) (boolText b ++ rest) = some (bool b, rest) := by
  cases b with
  | true =>
    have read := literal?_append "true" rest
    have letters : "true".toList = 't' :: "rue".toList := rfl
    rw [boolText, if_pos rfl, letters, List.cons_append, value?, ← List.cons_append, ← letters, read,
      Option.map_some]
  | false =>
    have read := literal?_append "false" rest
    have letters : "false".toList = 'f' :: "alse".toList := rfl
    rw [boolText, if_neg Bool.false_ne_true, letters, List.cons_append, value?, ← List.cons_append,
      ← letters, read, Option.map_some]

/-! ### Reading step by step -/

section Steps

variable {start after : List Char} {items : List Json}
  {members : List (Option String × Json)}

theorem value?_array (starts : skipSpace start = c :: rest) (more : c ≠ ']')
    (inside : items? fuel (c :: rest) = some (items, after)) :
    value? (fuel + 1) ('[' :: start) = some (array items, after) := by
  rw [value?, starts]
  simp [more, inside]

theorem value?_object (starts : skipSpace start = c :: rest) (more : c ≠ '}')
    (inside : members? fuel (c :: rest) = some (members, after)) :
    value? (fuel + 1) ('{' :: start) = some (object members, after) := by
  rw [value?, starts]
  simp [more, inside]

theorem items?_last (item : value? fuel cs = some (v, rest)) (stop : skipSpace rest = ']' :: after) :
    items? (fuel + 1) cs = some ([v], after) := by
  simp [items?, item, stop]

theorem items?_cons (item : value? fuel cs = some (v, rest)) (comma : skipSpace rest = ',' :: start)
    (others : items? fuel (skipSpace start) = some (items, after)) :
    items? (fuel + 1) cs = some (v :: items, after) := by
  simp [items?, item, comma, others]

theorem members?_last {s : String} (value : value? fuel (skipSpace start) = some (v, rest))
    (stop : skipSpace rest = '}' :: after) :
    members? (fuel + 1) (quoted (some s) ++ ':' :: start) = some ([(some s, v)], after) := by
  have colon : skipSpace (':' :: start) = ':' :: start := skipSpace_cons rfl start
  rw [quoted_some_append, members?]
  simp [stringFrom_escaped, colon, value, stop]

theorem members?_cons {s : String} {next : List Char}
    (value : value? fuel (skipSpace start) = some (v, rest)) (comma : skipSpace rest = ',' :: next)
    (others : members? fuel (skipSpace next) = some (members, after)) :
    members? (fuel + 1) (quoted (some s) ++ ':' :: start) = some ((some s, v) :: members, after) := by
  have colon : skipSpace (':' :: start) = ':' :: start := skipSpace_cons rfl start
  rw [quoted_some_append, members?]
  simp [stringFrom_escaped, colon, value, comma, others]

end Steps

/-- The items of an array start with a character that is no closing bracket. -/
theorem SpellsItems.exists_cons {vs : List Json} (spelled : SpellsItems vs cs) (rest : List Char) :
    ∃ c t, skipSpace (cs ++ rest) = c :: t ∧ c ≠ ']' := by
  cases spelled with
  | last _ _ blank item _ =>
    rw [List.append_assoc, List.append_assoc]
    exact item.exists_skipSpace_eq_cons blank _
  | cons _ _ _ blank item _ _ =>
    rw [List.append_assoc, List.append_assoc]
    exact item.exists_skipSpace_eq_cons blank _

/-- The members of an object start with the quote of a name. -/
theorem SpellsMembers.exists_cons {members : List (Option String × Json)}
    (spelled : SpellsMembers members cs) (rest : List Char) :
    ∃ t, skipSpace (cs ++ rest) = '"' :: t := by
  cases spelled with
  | last _ _ _ blank =>
    rw [List.append_assoc, skipSpace_blank_append blank]
    exact ⟨_, skipSpace_cons rfl _⟩
  | cons _ _ _ _ blank =>
    rw [List.append_assoc, skipSpace_blank_append blank]
    exact ⟨_, skipSpace_cons rfl _⟩

mutual

/-- A value is read from each of its texts. -/
theorem Spells.value?_eq {v : Json} {cs : List Char} (fuel : Nat) (rest : List Char) : Spells v cs →
    cs.length ≤ fuel → Stops rest → value? (fuel + 1) (cs ++ rest) = some (v, rest)
  | .null, _, _ => value?_null fuel rest
  | .bool b, _, _ => value?_boolText fuel b rest
  | .nat n, _, stops => value?_decimal fuel n stops
  | .text s, _, _ => value?_quoted fuel s rest
  | .emptyArray, _, _ => by
    rw [List.cons_append, value?]
    rfl
  | .array inside, enough, _ => by
    obtain ⟨c, t, starts, more⟩ := inside.exists_cons (']' :: rest)
    obtain ⟨fuel, rfl⟩ : ∃ k, fuel = k + 2 := ⟨fuel - 2, by simp at enough; omega⟩
    have read := inside.items?_eq fuel rest (by simp at enough; omega)
    rw [starts] at read
    rw [List.cons_append, List.append_assoc, List.singleton_append]
    exact value?_array starts more read
  | .emptyObject, _, _ => by
    rw [List.cons_append, value?]
    rfl
  | .object inside, enough, stops => by
    obtain ⟨t, starts⟩ := inside.exists_cons ('}' :: rest)
    obtain ⟨fuel, rfl⟩ : ∃ k, fuel = k + 2 := ⟨fuel - 2, by simp at enough; omega⟩
    have read := inside.members?_eq fuel rest (by simp at enough; omega)
    rw [starts] at read
    rw [List.cons_append, List.append_assoc, List.singleton_append]
    exact value?_object starts (by decide) read

theorem SpellsItems.items?_eq {vs : List Json} {cs : List Char} (fuel : Nat) (rest : List Char) :
    SpellsItems vs cs → cs.length ≤ fuel →
    items? (fuel + 2) (skipSpace (cs ++ ']' :: rest)) = some (vs, rest)
  | .last _ after blank item blank', enough => by
    have read := item.value?_eq fuel (after ++ ']' :: rest) (by simp at enough; omega)
      (stops_blank_append blank' (by simp))
    rw [List.append_assoc, List.append_assoc, item.skipSpace_append blank]
    exact items?_last read (by rw [skipSpace_blank_append blank', skipSpace_cons rfl])
  | .cons _ after later blank item blank' others, enough => by
    obtain ⟨fuel, rfl⟩ : ∃ k, fuel = k + 1 := ⟨fuel - 1, by simp at enough; omega⟩
    have read := item.value?_eq (fuel + 1) (after ++ ',' :: (later ++ ']' :: rest))
      (by simp at enough; omega)
      (stops_blank_append blank' (by simp))
    have readOthers := others.items?_eq fuel rest (by simp at enough; omega)
    simp only [List.append_assoc, List.cons_append]
    rw [item.skipSpace_append blank]
    exact items?_cons read (by rw [skipSpace_blank_append blank', skipSpace_cons rfl]) readOthers

theorem SpellsMembers.members?_eq {members : List (Option String × Json)} {cs : List Char} (fuel : Nat)
    (rest : List Char) : SpellsMembers members cs → cs.length ≤ fuel →
    members? (fuel + 2) (skipSpace (cs ++ '}' :: rest)) = some (members, rest)
  | .last _ _ after blank blank' value blank'', enough => by
    have read := value.value?_eq fuel (after ++ '}' :: rest) (by simp at enough; omega)
      (stops_blank_append blank'' (by simp))
    simp only [List.append_assoc, List.cons_append]
    rw [skipSpace_blank_append blank, skipSpace_quoted_append]
    rw [← value.skipSpace_append blank'] at read
    exact members?_last read (by rw [skipSpace_blank_append blank'', skipSpace_cons rfl])
  | .cons _ _ after later blank blank' value blank'' others, enough => by
    obtain ⟨fuel, rfl⟩ : ∃ k, fuel = k + 1 := ⟨fuel - 1, by simp at enough; omega⟩
    have read := value.value?_eq (fuel + 1) (after ++ ',' :: (later ++ '}' :: rest))
      (by simp at enough; omega) (stops_blank_append blank'' (by simp))
    have readOthers := others.members?_eq fuel rest (by simp at enough; omega)
    simp only [List.append_assoc, List.cons_append]
    rw [skipSpace_blank_append blank, skipSpace_quoted_append]
    rw [← value.skipSpace_append blank'] at read
    exact members?_cons read (by rw [skipSpace_blank_append blank'', skipSpace_cons rfl]) readOthers

end

/-- A text that spells a value is read as this value. -/
theorem Spells.read?_eq (spelled : Spells v cs) : read? cs = some v := by
  have read := spelled.value?_eq cs.length [] (Nat.le_refl _) (by simp [Stops])
  have noBlank : ([] : List Char).all isSpace = true := rfl
  have start := spelled.skipSpace_append noBlank []
  rw [List.nil_append, List.append_nil] at start
  rw [List.append_nil] at read
  rw [read?, start, read]
  rfl

end SchemaHistory.Json
