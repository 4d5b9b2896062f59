import SchemaHistory.Proofs.Target.Clause
import SchemaHistory.Redundancy

/-!
Words of a clause that are read as a name.

The words `IF NOT EXISTS` and `IF EXISTS` stand before a name, and where no name follows them, `IF` is read
as one. The clause that drops a constraint has no condition, and no clause knows `CONCURRENTLY`, so
there the word is read as the name whatever follows it.
-/

namespace SchemaHistory.Sql

variable {k : ObjectKind} {verb sql : String} {condition : List String} {start rest : List Char}

/-- Behind a condition the name that follows is read, and the first word of the condition if none
follows. -/
theorem objectOf?_of_condition (start : List Char)
    (split : sql.toList = verb.toList ++ ' ' :: (k.keyword.toList ++ ' ' :: start))
    (trimmed : trimStart start = start) (words : phrase? condition start = some rest)
    (fallback : ∃ after, name? start = some ("IF".toList, after)) :
    (∀ n : Identifier, n.Opens rest → objectOf? verb condition sql = some ⟨k, n.text⟩) ∧
    ((∀ n : Identifier, ¬ n.Opens rest) → objectOf? verb condition sql = some ⟨k, "if"⟩) := by
  constructor
  · intro n opens
    obtain ⟨after, read⟩ := n.name?_of_opens opens
    have named : nameBehind? condition start = some (n.chars, after) := by
      rw [nameBehind?, words, Option.bind_some, read]
      rfl
    exact objectOf?_of_nameBehind? split trimmed named
  · intro never
    obtain ⟨after, read⟩ := fallback
    have named : nameBehind? condition start = some ("IF".toList, after) := by
      rw [nameBehind?, words, Option.bind_some, name?_eq_none_iff.2 never, read]
      rfl
    exact objectOf?_of_nameBehind? split trimmed named

theorem created?_if_not_exists (k : ObjectKind) (r : String) :
    (∀ n : Identifier, n.Opens (trimStart r.toList) →
      created? ("CREATE " ++ k.keyword ++ " IF NOT EXISTS " ++ r) = some ⟨k, n.text⟩) ∧
    ((∀ n : Identifier, ¬ n.Opens (trimStart r.toList)) →
      created? ("CREATE " ++ k.keyword ++ " IF NOT EXISTS " ++ r) = some ⟨k, "if"⟩) :=
  objectOf?_of_condition ("IF NOT EXISTS ".toList ++ r.toList) (by simp) rfl rfl ⟨_, rfl⟩

theorem dropped?_if_exists (k : ObjectKind) (r : String) :
    (∀ n : Identifier, n.Opens (trimStart r.toList) →
      dropped? ("DROP " ++ k.keyword ++ " IF EXISTS " ++ r) = some ⟨k, n.text⟩) ∧
    ((∀ n : Identifier, ¬ n.Opens (trimStart r.toList)) →
      dropped? ("DROP " ++ k.keyword ++ " IF EXISTS " ++ r) = some ⟨k, "if"⟩) :=
  objectOf?_of_condition ("IF EXISTS ".toList ++ r.toList) (by simp) rfl rfl ⟨_, rfl⟩

/-- A condition before a constraint is not read, and its first word is the name. -/
theorem constraintDropped?_if_exists (t : Identifier) (r : String) :
    constraintDropped? ("ALTER TABLE " ++ t.spelling ++ " DROP CONSTRAINT IF EXISTS " ++ r) =
      some ⟨t.text, "if"⟩ := by
  have split : ("ALTER TABLE " ++ t.spelling ++ " DROP CONSTRAINT IF EXISTS " ++ r).toList =
      "ALTER".toList ++ ' ' :: ("TABLE".toList ++ ' ' :: (t.chars ++
        ' ' :: ("DROP CONSTRAINT IF EXISTS ".toList ++ r.toList))) := by
    simp [Identifier.spelling]
  have space : isBlank ' ' = true := by decide
  have clause := constraintClause?_append ["DROP", "CONSTRAINT"]
    ("DROP CONSTRAINT IF EXISTS ".toList ++ r.toList) (.refl _) space (.refl _) space t space
  rw [← split] at clause
  rw [constraintDropped?, constraintOf?, firstClause?_of_some clause (by rw [split]; simp)]
  rfl

/-- Behind a kind, `CONCURRENTLY` is the name if no condition is read there. -/
theorem objectOf?_concurrently {verb sql : String} {condition : List String} (rest : List Char)
    (split : sql.toList = verb.toList ++ " INDEX CONCURRENTLY ".toList ++ rest)
    (words : phrase? condition ("CONCURRENTLY ".toList ++ rest) = none) :
    objectOf? verb condition sql = some ⟨.index, "concurrently"⟩ := by
  have named : nameBehind? condition ("CONCURRENTLY ".toList ++ rest) =
      some ("CONCURRENTLY".toList, ' ' :: rest) := by
    rw [nameBehind?, words]
    rfl
  refine objectOf?_of_nameBehind? (k := .index) ?_ rfl named
  rw [split, List.append_assoc]
  rfl

theorem created?_concurrently (c : Identifier) (r : String) :
    created? ("CREATE INDEX CONCURRENTLY " ++ c.spelling ++ " " ++ r) =
      some ⟨.index, "concurrently"⟩ :=
  objectOf?_concurrently (c.chars ++ ' ' :: r.toList) (by simp [Identifier.spelling]) rfl

theorem dropped?_concurrently (c : Identifier) :
    dropped? ("DROP INDEX CONCURRENTLY " ++ c.spelling) = some ⟨.index, "concurrently"⟩ :=
  objectOf?_concurrently c.chars (by simp [Identifier.spelling]) rfl

end SchemaHistory.Sql

namespace SchemaHistory

open Sql

/-- What is read where a condition or `CONCURRENTLY` stands before a name. Behind `IF NOT EXISTS` and
`IF EXISTS` it is the identifier that follows, and `if` where none follows. Behind `DROP CONSTRAINT` it is
`if` and behind `INDEX` it is `concurrently`, whatever follows. -/
theorem clause_words_as_names (k : ObjectKind) (t c : Identifier) (r : String) :
    (∀ n : Identifier, n.Opens (trimStart r.toList) →
      created? ("CREATE " ++ k.keyword ++ " IF NOT EXISTS " ++ r) = some ⟨k, n.text⟩ ∧
      dropped? ("DROP " ++ k.keyword ++ " IF EXISTS " ++ r) = some ⟨k, n.text⟩) ∧
    ((∀ n : Identifier, ¬ n.Opens (trimStart r.toList)) →
      created? ("CREATE " ++ k.keyword ++ " IF NOT EXISTS " ++ r) = some ⟨k, "if"⟩ ∧
      dropped? ("DROP " ++ k.keyword ++ " IF EXISTS " ++ r) = some ⟨k, "if"⟩) ∧
    constraintDropped? ("ALTER TABLE " ++ t.spelling ++ " DROP CONSTRAINT IF EXISTS " ++ r) =
      some ⟨t.text, "if"⟩ ∧
    created? ("CREATE INDEX CONCURRENTLY " ++ c.spelling ++ " " ++ r) =
      some ⟨.index, "concurrently"⟩ ∧
    dropped? ("DROP INDEX CONCURRENTLY " ++ c.spelling) = some ⟨.index, "concurrently"⟩ := by
  refine ⟨fun n opens => ?_, fun never => ?_, constraintDropped?_if_exists t r,
    created?_concurrently c r, dropped?_concurrently c⟩
  · exact ⟨(created?_if_not_exists k r).1 n opens, (dropped?_if_exists k r).1 n opens⟩
  · exact ⟨(created?_if_not_exists k r).2 never, (dropped?_if_exists k r).2 never⟩

/-- A word of a condition is taken for a name: `[foo]` starts with no identifier, and the table that is
created if it does not exist is read as `if`. -/
theorem not_forall_condition_skipped :
    ¬ ∀ (k : ObjectKind) (r : String), ¬ Mentions "CREATE" r.toList → ¬ Mentions "DROP" r.toList →
      ¬ Mentions "ALTER" r.toList → (∀ n : Identifier, ¬ n.Opens r.toList) →
        created? ("CREATE " ++ k.keyword ++ " IF NOT EXISTS " ++ r) = none := by
  intro skipped
  have nothing := skipped .table "[foo] (id INT)" (by decide) (by decide) (by decide)
    (name?_eq_none_iff.1 rfl)
  exact absurd nothing (by decide +kernel)

example : ((History.ofSources [⟨"init", "CREATE TABLE IF NOT EXISTS [a] (id INT)"⟩,
      ⟨"later", "DROP TABLE IF EXISTS [b]"⟩]).resolve.statements.map (·.filter)) =
    [some (.createDropped .table "if" 1), none] := by
  decide +kernel

end SchemaHistory
