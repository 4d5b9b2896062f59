import SchemaHistory.Proofs.Script.Plain
import SchemaHistory.Proofs.Target.Word

/-!
Verbs of a statement: words with a blank behind them, as they start a clause.

A text that has no verb has no clause that starts with it. Leaving out blank lines, as extraction does,
brings in no verb, as the end of a line is a blank like another.
-/

namespace SchemaHistory.Sql

variable {cs rest : List Char} {word : String} {d : Char}

/-- The text starts with the word and a blank behind it, as where a clause starts. -/
def StartsWithVerb (word : String) (cs : List Char) : Prop :=
  ∃ spelled c, Spells word.toList spelled ∧ isBlank c = true ∧ spelled ++ [c] <+: cs

/-- Somewhere in the text the word is spelled and a blank follows it, as where it starts a clause. -/
def HasVerb (word : String) (cs : List Char) : Prop :=
  ∃ spelled c, Spells word.toList spelled ∧ isBlank c = true ∧ spelled ++ [c] <:+: cs

namespace HasVerb

variable {a b : List Char}

theorem of_part (verb : HasVerb word a) (inside : a <:+: cs) : HasVerb word cs := by
  obtain ⟨spelled, c, spells, blank, here⟩ := verb
  exact ⟨spelled, c, spells, blank, here.trans inside⟩

theorem mentions (verb : HasVerb word cs) : Mentions word cs := by
  obtain ⟨spelled, c, spells, -, here⟩ := verb
  rw [Mentions, show word.toList.map letter = spelled.map letter from spells]
  exact ((List.prefix_append spelled [c]).isInfix.trans here).map letter

/-- The blank behind the word is the last character of the text, or the word is a verb without it. -/
theorem of_append_singleton (verb : HasVerb word (a ++ [d])) :
    (∃ spelled, Spells word.toList spelled ∧ spelled <:+ a ∧ isBlank d = true) ∨ HasVerb word a := by
  obtain ⟨spelled, c, spells, blank, here⟩ := verb
  rcases List.infix_concat_iff.1 here with ends | inside
  · rcases List.suffix_concat_iff.1 ends with empty | ⟨_, same, before⟩
    · simp at empty
    · obtain ⟨rfl, last⟩ := List.append_inj' same rfl
      obtain ⟨rfl, -⟩ := List.cons.inj last
      exact Or.inl ⟨spelled, spells, before, blank⟩
  · exact Or.inr ⟨spelled, c, spells, blank, inside⟩

/-- What stands before the last character of a text with a verb mentions the word. -/
theorem mentions_of_append_singleton (verb : HasVerb word (a ++ [d])) : Mentions word a := by
  rcases verb.of_append_singleton with ⟨spelled, spells, ends, -⟩ | verb
  · rw [Mentions, show word.toList.map letter = spelled.map letter from spells]
    exact ends.isInfix.map letter
  · exact verb.mentions

end HasVerb

/-- A character that is none of its letters divides the places of a verb, but may be the blank itself. -/
theorem hasVerb_append_cons_iff {a b : List Char} (outside : letter d ∉ word.toList.map letter) :
    HasVerb word (a ++ d :: b) ↔ HasVerb word (a ++ [d]) ∨ HasVerb word b := by
  have parted : a ++ d :: b = (a ++ [d]) ++ b := (List.append_cons a d b)
  rw [parted]
  constructor
  · rintro ⟨spelled, c, spells, blank, here⟩
    rcases List.infix_append_iff_ne_nil.1 here with inA | inB | ⟨l₁, l₂, some₁, some₂, split, ends, -⟩
    · exact Or.inl ⟨spelled, c, spells, blank, inA⟩
    · exact Or.inr ⟨spelled, c, spells, blank, inB⟩
    · -- the character would be one of the word
      obtain ⟨l₁, rfl, -⟩ := (List.suffix_concat_iff.1 ends).resolve_left some₁
      obtain ⟨l₂, last, rfl⟩ := (List.eq_nil_or_concat' l₂).resolve_left some₂
      rw [← List.append_assoc] at split
      obtain ⟨rfl, -⟩ := List.append_inj' split rfl
      refine absurd ?_ outside
      rw [show word.toList.map letter = _ from spells]
      exact List.mem_map_of_mem (by simp)
  · rintro (verb | verb)
    · exact verb.of_part (List.prefix_append _ _).isInfix
    · exact verb.of_part (List.suffix_append _ _).isInfix

/-- A character that is neither a blank nor a letter of the word parts the text in two. -/
theorem hasVerb_append_cons_iff_of_not_blank {a b : List Char}
    (outside : letter d ∉ word.toList.map letter) (notBlank : isBlank d = false) :
    HasVerb word (a ++ d :: b) ↔ HasVerb word a ∨ HasVerb word b := by
  rw [hasVerb_append_cons_iff outside]
  refine or_congr_left ⟨fun verb => ?_, fun verb => verb.of_part (List.prefix_append a [d]).isInfix⟩
  refine verb.of_append_singleton.resolve_left ?_
  rintro ⟨_, _, _, blank⟩
  exact absurd blank (by simp [notBlank])

theorem StartsWithVerb.hasVerb (starts : StartsWithVerb word cs) : HasVerb word cs := by
  obtain ⟨spelled, c, spells, blank, start⟩ := starts
  exact ⟨spelled, c, spells, blank, start.isInfix⟩

theorem startsWithVerb_iff : StartsWithVerb word cs ↔ (phrase? [word] cs).isSome = true := by
  rw [Option.isSome_iff_exists]
  constructor
  · rintro ⟨spelled, c, spells, blank, rest, rfl⟩
    rw [List.append_assoc, List.singleton_append]
    exact ⟨_, phrase?_cons spells blank rest⟩
  · rintro ⟨rest, read⟩
    exact exists_prefix_of_phrase? read

instance (word : String) (cs : List Char) : Decidable (StartsWithVerb word cs) :=
  decidable_of_iff _ startsWithVerb_iff.symm

/-- A text has a verb if some end of it starts with the verb. -/
theorem hasVerb_iff : HasVerb word cs ↔ cs.tails.any (StartsWithVerb word ·) = true := by
  rw [List.any_eq_true]
  constructor
  · rintro ⟨spelled, c, spells, blank, here⟩
    obtain ⟨part, start, inside⟩ := List.infix_iff_prefix_suffix.1 here
    exact ⟨part, (List.mem_tails part cs).2 inside, decide_eq_true ⟨spelled, c, spells, blank, start⟩⟩
  · rintro ⟨part, inside, starts⟩
    have verb := (of_decide_eq_true starts).hasVerb
    exact verb.of_part ((List.mem_tails part cs).1 inside).isInfix

instance (word : String) (cs : List Char) : Decidable (HasVerb word cs) :=
  decidable_of_iff _ hasVerb_iff.symm

/-- No phrase is read where its first word does not stand. -/
theorem phrase?_eq_none {words : List String} (absent : ¬ StartsWithVerb word cs) :
    phrase? (word :: words) cs = none := by
  rw [Option.eq_none_iff_forall_ne_some]
  exact fun rest read => absent (exists_prefix_of_phrase? read)

/-- A text that starts with a phrase has the first word of the phrase as a verb. -/
theorem hasVerb_of_phrase? {words : List String} (read : phrase? (word :: words) cs = some rest) :
    HasVerb word cs :=
  StartsWithVerb.hasVerb (exists_prefix_of_phrase? read)

/-- Leaving out lines behind the first brings in no verb: the end of a line is followed by a blank. -/
theorem HasVerb.of_filter_lines (keep : List Char → Bool)
    (newline : letter '\n' ∉ word.toList.map letter) {line : List Char} {lines : List (List Char)}
    (verb : HasVerb word (joinWith '\n' (line :: lines.filter keep))) :
    HasVerb word (joinWith '\n' (line :: lines)) := by
  induction lines generalizing line with
  | nil => exact verb
  | cons next lines ih =>
    rw [List.filter_cons] at verb
    rw [joinWith_cons_cons, hasVerb_append_cons_iff newline]
    split at verb
    · rw [joinWith_cons_cons, hasVerb_append_cons_iff newline] at verb
      exact verb.imp_right ih
    · cases lines with
      | nil =>
        have alone : HasVerb word line := by simpa [joinWith] using verb
        exact Or.inl (alone.of_part (List.prefix_append line _).isInfix)
      | cons later lines =>
        have there := ih verb
        rw [joinWith_cons_cons, hasVerb_append_cons_iff newline] at there
        refine there.imp_right fun behind => behind.of_part ?_
        rw [joinWith_cons_cons]
        exact (List.suffix_cons _ _).isInfix.trans List.infix_append_right

/-- A text in which blank lines are left out has no verb that is new. -/
theorem HasVerb.of_closeUp (newline : letter '\n' ∉ word.toList.map letter)
    (verb : HasVerb word (closeUp cs)) : HasVerb word cs := by
  obtain ⟨m, ms, split⟩ := exists_pieces_eq_cons (· == '\n') cs
  rw [closeUp_of_pieces split] at verb
  rw [← joinWith_pieces '\n' cs, split]
  exact verb.of_filter_lines _ newline

end SchemaHistory.Sql
