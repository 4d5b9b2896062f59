import SchemaHistory.Proofs.Target.Name
import SchemaHistory.Proofs.Target.Verb

/-!
Clauses at the start of a statement.

The first clause of a statement is found at its start, if there is one. What stands before the name in it
is read word by word; where a text has no verb of a clause, it has no such clause.
-/

namespace SchemaHistory

open Sql

/-! ### Kinds -/

/-- No two kinds are spelled at the same place. -/
theorem ObjectKind.eq_of_word?_keyword {k k' : ObjectKind} {cs : List Char}
    {found found' : List Char × List Char} (read : word? k.keyword.toList cs = some found)
    (read' : word? k'.keyword.toList cs = some found') : k = k' := by
  obtain ⟨spells, rfl⟩ := spells_of_word? read
  obtain ⟨spells', split⟩ := spells_of_word? read'
  -- one of the two keywords would start with the other
  have start : k.keyword.toList.map letter <+: (found.1 ++ found.2).map letter := by
    rw [show k.keyword.toList.map letter = found.1.map letter from spells, List.map_append]
    exact List.prefix_append _ _
  have start' : k'.keyword.toList.map letter <+: (found.1 ++ found.2).map letter := by
    rw [show k'.keyword.toList.map letter = found'.1.map letter from spells', split,
      List.map_append]
    exact List.prefix_append _ _
  have apart : ∀ k k' : ObjectKind,
      k.keyword.toList.map letter <+: k'.keyword.toList.map letter → k = k' := by
    intro k k'
    cases k <;> cases k' <;> decide
  rcases List.prefix_or_prefix_of_prefix start start' with shorter | shorter
  · exact apart k k' shorter
  · exact (apart k' k shorter).symm

theorem ObjectKind.mem_all (k : ObjectKind) : k ∈ all := by cases k <;> decide

@[simp] theorem ObjectKind.ofChars?_keyword (k : ObjectKind) : ofChars? k.keyword.toList = some k := by
  cases k <;> decide

namespace Sql

variable {k : ObjectKind} {cs spelled rest : List Char} {verb : String} {condition : List String}

/-- The word for a kind is read where it is spelled. -/
theorem kindWord?_append (spells : Spells k.keyword.toList spelled) (rest : List Char) :
    kindWord? (spelled ++ rest) = some (spelled, rest) := by
  have read := word?_append spells rest
  rw [kindWord?]
  cases found : ObjectKind.all.findSome? fun kind => word? kind.keyword.toList (spelled ++ rest) with
  | none =>
    rw [List.findSome?_eq_none_iff] at found
    rw [found k k.mem_all] at read
    exact absurd read (Option.some_ne_none _).symm
  | some pair =>
    obtain ⟨k', -, read'⟩ := List.exists_of_findSome?_eq_some found
    obtain rfl := ObjectKind.eq_of_word?_keyword read read'
    rw [← read, ← read']

/-! ### Where a clause starts -/

section Search

variable {α : Type} {clause? : List Char → Option α} {found : α}

/-- A clause at the start of a text is the first. -/
theorem firstClause?_of_some (here : clause? cs = some found) (nonempty : cs ≠ []) :
    firstClause? clause? cs = some found := by
  obtain ⟨c, rest, rfl⟩ := List.exists_cons_of_ne_nil nonempty
  rw [firstClause?, here]

/-- A text has no clause that starts nowhere in it. -/
theorem firstClause?_eq_none (nowhere : ∀ part, part <:+ cs → clause? part = none) :
    firstClause? clause? cs = none := by
  induction cs with
  | nil => rfl
  | cons c rest ih =>
    rw [firstClause?, nowhere _ List.suffix_rfl]
    exact ih fun part inside => nowhere part (inside.trans (List.suffix_cons c rest))

/-- Where no clause starts at the start of a text, a clause needs its verb behind the first character. -/
theorem firstClause?_eq_none_of_tail (needs : ∀ part, ¬ HasVerb verb part → clause? part = none)
    (here : clause? cs = none) (absent : ¬ HasVerb verb cs.tail) : firstClause? clause? cs = none := by
  refine firstClause?_eq_none fun part inside => ?_
  cases cs with
  | nil => rwa [List.suffix_nil.1 inside]
  | cons c rest =>
    rcases List.suffix_cons_iff.1 inside with rfl | later
    · exact here
    · exact needs part fun verb => absent (verb.of_part later.isInfix)

end Search

/-! ### Clauses about objects -/

/-- The name behind the words of a condition, or else the name in their place. -/
def nameBehind? (condition : List String) (cs : List Char) : Option (List Char × List Char) :=
  (phrase? condition cs).bind name? <|> name? cs

/-- A clause that starts with its verb and a kind has the name that follows. -/
theorem objectClause?_append {v kw body : List Char} {g g' : Char} (verbSpelled : Spells verb.toList v)
    (blank : isBlank g = true) (kindSpelled : Spells k.keyword.toList kw)
    (blank' : isBlank g' = true) :
    objectClause? verb condition (v ++ g :: (kw ++ g' :: body)) =
      (nameBehind? condition (trimStart body)).map fun (name, _) => (kw, name) := by
  have letters : ∀ c ∈ k.keyword.toList.head?, letter c ∉ blankCodes := by
    cases k <;> (rintro c ⟨⟩; decide)
  have nonempty : k.keyword.toList ≠ [] := by
    cases k <;> decide
  rw [objectClause?, phrase?_cons verbSpelled blank,
    trimStart_spelled_append kindSpelled letters nonempty, phrase?]
  simp only [Option.bind_eq_bind, Option.bind_some, kindWord?_append kindSpelled, blanks?, blank',
    if_true]
  exact Option.map_eq_bind.symm

/-- A clause starts with its verb. -/
theorem objectClause?_eq_none_of_start (absent : ¬ StartsWithVerb verb cs) :
    objectClause? verb condition cs = none := by
  rw [objectClause?, phrase?_eq_none absent]
  rfl

theorem objectClause?_eq_none (absent : ¬ HasVerb verb cs) :
    objectClause? verb condition cs = none :=
  objectClause?_eq_none_of_start fun starts => absent starts.hasVerb

/-- A statement that starts with its verb and a kind is about the object whose name follows. -/
theorem objectOf?_of_append {sql : String} {v kw body name after : List Char} {g g' : Char}
    (split : sql.toList = v ++ g :: (kw ++ g' :: body)) (verbSpelled : Spells verb.toList v)
    (blank : isBlank g = true) (kindSpelled : Spells k.keyword.toList kw) (blank' : isBlank g' = true)
    (read : nameBehind? condition (trimStart body) = some (name, after)) :
    objectOf? verb condition sql = (ObjectKind.ofChars? kw).map (⟨·, nameText name⟩) := by
  have clause : objectClause? verb condition (v ++ g :: (kw ++ g' :: body)) = _ :=
    objectClause?_append verbSpelled blank kindSpelled blank'
  rw [read, ← split] at clause
  rw [objectOf?, firstClause?_of_some clause (by rw [split]; simp)]
  exact Option.map_eq_bind.symm

/-- The object of a statement that starts with its verb and a kind in capitals, with single spaces. -/
theorem objectOf?_of_nameBehind? {sql : String} {start name after : List Char}
    (split : sql.toList = verb.toList ++ ' ' :: (k.keyword.toList ++ ' ' :: start))
    (trimmed : trimStart start = start) (read : nameBehind? condition start = some (name, after)) :
    objectOf? verb condition sql = some ⟨k, nameText name⟩ := by
  rw [← trimmed] at read
  rw [objectOf?_of_append split (.refl _) (by decide) (.refl _) (by decide) read,
    ObjectKind.ofChars?_keyword]
  rfl

/-! ### Clauses about constraints -/

/-- A clause that starts with `ALTER TABLE` and a table has the name behind the words of its action. -/
theorem constraintClause?_append (action : List String) {v w : List Char} (body : List Char)
    {g g' g'' : Char} (alter : Spells "ALTER".toList v) (blank : isBlank g = true)
    (table : Spells "TABLE".toList w)
    (blank' : isBlank g' = true) (t : Identifier) (blank'' : isBlank g'' = true) :
    constraintClause? action (v ++ g :: (w ++ g' :: (t.chars ++ g'' :: body))) =
      ((phrase? action (trimStart body)).bind name?).map fun (name, _) => (t.chars, name) := by
  have ends : ∀ c ∈ (g'' :: body).head?, continuesName c = false := by
    rintro c ⟨⟩
    exact continuesName_of_isBlank blank''
  have unquoted : dropQuote (g'' :: body) = g'' :: body := by
    rw [dropQuote, isQuote_of_isBlank blank'']
    rfl
  rw [constraintClause?, phrase?_cons alter blank,
    trimStart_spelled_append table (by rintro c ⟨⟩; decide) (by decide), phrase?_cons table blank',
    t.trimStart_chars_append, phrase?]
  simp only [Option.bind_eq_bind, Option.bind_some, t.name?_append ends, unquoted, blanks?, blank'',
    if_true]
  cases phrase? action (trimStart body) with
  | none => rfl
  | some rest => exact Option.map_eq_bind.symm

/-- No clause about a constraint is read where none about a table is. -/
theorem constraintClause?_eq_none {action : List String} (absent : phrase? ["ALTER", "TABLE"] cs = none) :
    constraintClause? action cs = none := by
  rw [constraintClause?, absent]
  rfl

/-- The first word of its action stands behind the first character of a clause. -/
theorem hasVerb_tail_of_constraintClause? {word : String} {words : List String}
    {found : List Char × List Char} (read : constraintClause? (word :: words) cs = some found) :
    HasVerb word cs.tail := by
  rw [constraintClause?, Option.bind_eq_bind, Option.bind_eq_some_iff] at read
  obtain ⟨behindTable, table, read⟩ := read
  obtain ⟨⟨_, behindName⟩, name, read⟩ := Option.bind_eq_some_iff.1 read
  obtain ⟨action, blanks, read⟩ := Option.bind_eq_some_iff.1 read
  obtain ⟨_, words, -⟩ := Option.bind_eq_some_iff.1 read
  have inside : action <:+ cs.tail := (suffix_of_blanks? blanks).trans
    (tail_suffix_tail ((suffix_of_name? name).trans (suffix_of_phrase? table)))
  exact (hasVerb_of_phrase? words).of_part inside.isInfix

/-- A statement has no clause whose action it does not have behind its first character. -/
theorem constraintOf?_eq_none {word sql : String} {words : List String}
    (absent : ¬ HasVerb word sql.toList.tail) : constraintOf? (word :: words) sql = none := by
  have nowhere : firstClause? (constraintClause? (word :: words)) sql.toList = none := by
    refine firstClause?_eq_none fun part inside => ?_
    rw [Option.eq_none_iff_forall_ne_some]
    intro found read
    exact absent ((hasVerb_tail_of_constraintClause? read).of_part (tail_suffix_tail inside).isInfix)
  rw [constraintOf?, nowhere]
  rfl

/-! ### Clauses, part by part -/

/-- The name behind a condition, or else in its place. -/
theorem nameBehind?_eq (condition : List String) (cs : List Char) :
    nameBehind? condition cs = (name? ((phrase? condition cs).getD []) <|> name? cs) := by
  rw [nameBehind?]
  cases phrase? condition cs <;> rfl

/-- A clause about an object. Where a part of it is missing, nothing can be read behind it. -/
theorem objectClause?_eq (verb : String) (condition : List String) (cs : List Char) :
    objectClause? verb condition cs = (kindWord? ((phrase? [verb] cs).getD [])).bind fun x =>
      (nameBehind? condition ((blanks? x.2).getD [])).map fun y => (x.1, y.1) := by
  have noKind : kindWord? [] = none := rfl
  have noName : nameBehind? condition [] = none := by
    rw [nameBehind?_eq, getD_phrase?_nil]
    rfl
  rw [objectClause?]
  cases phrase? [verb] cs with
  | none => simp [noKind]
  | some behindVerb =>
    cases kind : kindWord? behindVerb with
    | none => simp [kind]
    | some x =>
      cases behind : blanks? x.2 with
      | none => simp [kind, behind, noName]
      | some rest =>
        simp only [Option.bind_eq_bind, Option.bind_some, Option.getD_some, kind, behind]
        exact Option.map_eq_bind.symm

/-- A clause about a constraint, in the same way. -/
theorem constraintClause?_eq (action : List String) (cs : List Char) :
    constraintClause? action cs = (name? ((phrase? ["ALTER", "TABLE"] cs).getD [])).bind fun x =>
      (name? ((phrase? action ((blanks? x.2).getD [])).getD [])).map fun y => (x.1, y.1) := by
  have noName : name? [] = none := rfl
  rw [constraintClause?]
  cases phrase? ["ALTER", "TABLE"] cs with
  | none => simp [noName]
  | some behindTable =>
    cases table : name? behindTable with
    | none => simp [table]
    | some x =>
      cases behind : blanks? x.2 with
      | none => simp [table, behind, getD_phrase?_nil, noName]
      | some rest =>
        cases words : phrase? action rest with
        | none => simp [table, behind, words, noName]
        | some last =>
          simp only [Option.bind_eq_bind, Option.bind_some, Option.getD_some, table, behind, words]
          exact Option.map_eq_bind.symm

end Sql

end SchemaHistory
