import SchemaHistory.Proofs.Target.Clause

/-!
Names that are read in part.

A name ends at the first character that is no letter, digit or underscore, whatever stands there. Of a
dotted name only the schema is read, and of a quoted name only the identifier that it starts with. Where
a quoted name starts with none, nothing is read in its place.
-/

namespace SchemaHistory.Sql

namespace Identifier

variable {n : Identifier} {cs after : List Char} {c q : Char}

/-- What a text starts with is decided before a character that is in no name. -/
theorem leads_append_cons_iff (stops : continuesName c = false) :
    n.Leads (cs ++ c :: after) ↔ n.Leads cs := by
  constructor
  · rintro ⟨rest, split, ends⟩
    rcases List.append_eq_append_iff.1 split with ⟨extra, chars, next⟩ | ⟨left, rfl, rfl⟩
    · -- the identifier ends where `cs` does, as it does not go on with `c`
      cases extra with
      | nil => exact ⟨[], by rw [chars]; simp, by simp⟩
      | cons d extra =>
        obtain ⟨rfl, -⟩ := List.cons.inj next
        have inside : continuesName c = true := continuesName_of_mem_chars (by rw [chars]; simp)
        rw [stops] at inside
        exact absurd inside Bool.false_ne_true
    · refine ⟨left, rfl, fun d head => ends d ?_⟩
      rw [List.head?_append, Option.mem_def.1 head]
      rfl
  · rintro ⟨rest, rfl, ends⟩
    refine ⟨rest ++ c :: after, by rw [List.append_assoc], fun d head => ?_⟩
    cases rest with
    | nil => exact (Option.some.inj head) ▸ stops
    | cons => exact ends d head

/-- Behind a quote, the identifier is what the text starts with. -/
theorem opens_cons_iff (quote : isQuote q = true) : n.Opens (q :: cs) ↔ n.Leads cs := by
  constructor
  · rintro (⟨after, split, -⟩ | ⟨_, _, -, split, leads⟩)
    · obtain ⟨rfl, -⟩ := List.cons.inj split
      exact absurd n.starts (by rw [startsName_of_isQuote quote]; simp)
    · obtain ⟨-, rfl⟩ := List.cons.inj split
      exact leads
  · exact fun leads => Or.inr ⟨q, cs, quote, rfl, leads⟩

end Identifier

variable {k : ObjectKind} {verb sql : String} {words : List String} {tail : List Char}

/-- A phrase does not start with a word that stands right before a dot. -/
theorem phrase?_chars_append_dot {word : String} (outside : letter '.' ∉ word.toList.map letter)
    (n : Identifier) (words : List String) (tail : List Char) :
    phrase? (word :: words) (n.chars ++ '.' :: tail) = none := by
  rw [Option.eq_none_iff_forall_ne_some]
  intro rest read
  obtain ⟨spelled, c, spells, blank, start⟩ := exists_prefix_of_phrase? read
  have noDot : '.' ∉ spelled ++ [c] := by
    rw [List.mem_append, List.mem_singleton, not_or]
    constructor
    · intro inside
      rw [show word.toList.map letter = _ from spells] at outside
      exact outside (List.mem_map_of_mem inside)
    · rintro rfl
      exact absurd blank (by decide)
  -- so the blank would be a character of the identifier
  have inside : c ∈ n.chars := ((prefix_append_cons_iff noDot).1 start).subset (by simp)
  have goesOn := Identifier.continuesName_of_mem_chars inside
  rw [continuesName_of_isBlank blank] at goesOn
  exact Bool.false_ne_true goesOn

/-- Of a dotted name the first part is read. -/
theorem objectOf?_dotted (s : Identifier) (tail : List Char) (split : sql.toList =
      verb.toList ++ ' ' :: (k.keyword.toList ++ ' ' :: (s.chars ++ '.' :: tail))) :
    objectOf? verb ("IF" :: words) sql = some ⟨k, s.text⟩ := by
  have named : nameBehind? ("IF" :: words) (s.chars ++ '.' :: tail) = some (s.chars, '.' :: tail) := by
    have ends : ∀ c ∈ ('.' :: tail).head?, continuesName c = false := by
      rintro c ⟨⟩
      decide
    rw [nameBehind?, phrase?_chars_append_dot (by decide), Option.bind_none, s.name?_append ends]
    rfl
  exact objectOf?_of_nameBehind? split (s.trimStart_chars_append _) named

/-- The verbs of the clauses about objects. -/
def objectVerbs : List String := ["CREATE", "DROP"]

theorem letter_notMem_objectVerb (known : verb ∈ objectVerbs) {c : Char}
    (outside : c ∈ [' ', '\n', '"']) : letter c ∉ verb.toList.map letter := by
  simp only [objectVerbs, List.mem_cons, List.not_mem_nil, or_false] at known outside
  rcases known with rfl | rfl <;> rcases outside with rfl | rfl | rfl <;> decide

theorem not_mentions_nil_of_objectVerb (known : verb ∈ objectVerbs) : ¬ Mentions verb [] := by
  have none : ∀ verb ∈ objectVerbs, ¬ Mentions verb [] := by decide
  exact none verb known

/-- A statement about a quoted name has its verb once, unless the name or what follows has it. -/
theorem hasVerb_of_quoted (known : verb ∈ objectVerbs) {n : List Char} (has : HasVerb verb
      (verb.toList ++ ' ' :: (k.keyword.toList ++ ' ' :: '"' :: (n ++ '"' :: tail))).tail) :
    HasVerb verb n ∨ HasVerb verb tail := by
  have space := letter_notMem_objectVerb (c := ' ') known (by simp)
  have quote := letter_notMem_objectVerb (c := '"') known (by simp)
  have once : ∀ verb ∈ objectVerbs, verb.toList ≠ [] ∧ ¬ Mentions verb verb.toList.tail := by decide
  have kind : ∀ verb ∈ objectVerbs, ¬ Mentions verb k.keyword.toList := by cases k <;> decide
  rw [List.tail_append_of_ne_nil (once verb known).1, hasVerb_append_cons_iff space] at has
  rcases has with has | has
  · exact absurd has.mentions_of_append_singleton (once verb known).2
  rw [hasVerb_append_cons_iff space] at has
  rcases has with has | has
  · exact absurd has.mentions_of_append_singleton (kind verb known)
  rcases (hasVerb_append_cons_iff_of_not_blank (a := []) quote (by decide)).1 has with has | has
  · exact absurd has.mentions (not_mentions_nil_of_objectVerb known)
  · exact (hasVerb_append_cons_iff_of_not_blank quote (by decide)).1 has

/-- Of a quoted name the identifier that it starts with is read, and nothing if it starts with none. -/
theorem objectOf?_quoted (known : verb ∈ objectVerbs) (words : List String) {n : List Char}
    (split : sql.toList =
      verb.toList ++ ' ' :: (k.keyword.toList ++ ' ' :: '"' :: (n ++ '"' :: tail))) :
    (∀ m : Identifier, m.Leads n → objectOf? verb ("IF" :: words) sql = some ⟨k, m.text⟩) ∧
    ((∀ m : Identifier, ¬ m.Leads n) → ¬ HasVerb verb n → ¬ HasVerb verb tail →
      objectOf? verb ("IF" :: words) sql = none) := by
  have opens : ∀ m : Identifier, m.Opens ('"' :: (n ++ '"' :: tail)) ↔ m.Leads n := fun m =>
    (Identifier.opens_cons_iff (by decide)).trans (Identifier.leads_append_cons_iff (by decide))
  have noCondition : phrase? ("IF" :: words) ('"' :: (n ++ '"' :: tail)) = none := rfl
  constructor
  · intro m leads
    obtain ⟨after, read⟩ := m.name?_of_opens ((opens m).2 leads)
    have named : nameBehind? ("IF" :: words) ('"' :: (n ++ '"' :: tail)) = some (m.chars, after) := by
      rw [nameBehind?, noCondition, Option.bind_none, read]
      rfl
    exact objectOf?_of_nameBehind? split rfl named
  · intro never absent absent'
    have unnamed : nameBehind? ("IF" :: words) ('"' :: (n ++ '"' :: tail)) = none := by
      rw [nameBehind?, noCondition, Option.bind_none,
        name?_eq_none_iff.2 fun m => (opens m).not.2 (never m)]
      rfl
    have nowhere : firstClause? (objectClause? verb ("IF" :: words)) sql.toList = none := by
      refine firstClause?_eq_none_of_tail (fun _ => objectClause?_eq_none) ?_ ?_
      · rw [split, objectClause?_append (.refl _) (by decide) (.refl _) (by decide)]
        have start : trimStart ('"' :: (n ++ '"' :: tail)) = '"' :: (n ++ '"' :: tail) := rfl
        rw [start, unnamed]
        rfl
      · rw [split]
        exact fun has => (hasVerb_of_quoted known has).elim absent absent'
    rw [objectOf?, nowhere]
    rfl

end SchemaHistory.Sql
