import SchemaHistory.Proofs.Target.Clause
import SchemaHistory.Proofs.Text.Trim
import SchemaHistory.Proofs.Text.Words

/-!
Clauses as they are written.

The words of a clause are written in any mix of capitals and small letters and with any blanks behind
them, and a name with or without a quote on either side. Whatever the writing, the clause is read as its
kind and its names, if the text that follows does not go on with the last name.
-/

namespace SchemaHistory.Sql

variable {word verb : String} {words action : List String} {spelled gap lead cs v : List Char}
  {k : ObjectKind}

/-! ### Words -/

/-- A word in capitals, in any mix of capitals and small letters. -/
def CaseVariant (word : String) (spelled : List Char) : Prop :=
  spelled.map Char.toUpper = word.toList

/-- Blanks, and at least one. -/
def IsGap (gap : List Char) : Prop := gap ≠ [] ∧ gap.all isBlank = true

instance (gap : List Char) : Decidable (IsGap gap) :=
  inferInstanceAs (Decidable (gap ≠ [] ∧ gap.all isBlank = true))

/-- Words in any mix of capitals and small letters, each with blanks behind it. -/
inductive Phrase : List String → List Char → Prop where
  | nil : Phrase [] []
  | cons {word : String} {words : List String} {rest : List Char} (spelled gap : List Char)
      (variant : CaseVariant word spelled) (blank : IsGap gap) (more : Phrase words rest) :
      Phrase (word :: words) (spelled ++ (gap ++ rest))

/-- A word has letters and no blanks. -/
def isKeyword (word : String) : Bool := !word.toList.isEmpty && isSolid word.toList

theorem isKeyword_keyword (k : ObjectKind) : isKeyword k.keyword = true := by
  cases k <;> decide

/-- The capital of a letter is the same letter. -/
theorem letter_toUpper (c : Char) : letter c.toUpper = letter c := by
  cases ascii : isAscii c with
  | true => exact of_isAscii (p := fun c => letter c.toUpper = letter c) ascii (by decide)
  | false =>
    have large : ¬ c.toNat < 128 := of_decide_eq_false ascii
    have same : c.toUpper = c := dif_neg fun small =>
      large (Nat.lt_of_le_of_lt small.2 (by decide))
    rw [same]

theorem CaseVariant.spells (variant : CaseVariant word spelled) : Spells word.toList spelled := by
  rw [Spells, ← variant, List.map_map]
  exact List.map_congr_left fun c _ => letter_toUpper c

theorem CaseVariant.ofChars?_eq (variant : CaseVariant k.keyword spelled) :
    ObjectKind.ofChars? spelled = some k := by
  have capitals : k.keyword.toList.map Char.toUpper = k.keyword.toList := by
    cases k <;> decide
  rw [← k.ofChars?_keyword, ObjectKind.ofChars?, ObjectKind.ofChars?, variant, capitals]

/-! ### Blanks between words -/

theorem isBlank_eq_false_of_spells (keyword : isKeyword word = true)
    (spells : Spells word.toList spelled) : ∀ c ∈ spelled, isBlank c = false := by
  rw [isKeyword, Bool.and_eq_true] at keyword
  intro c member
  have inside : letter c ∈ word.toList.map letter := by
    rw [show word.toList.map letter = _ from spells]
    exact List.mem_map_of_mem member
  obtain ⟨d, member', same⟩ := List.mem_map.1 inside
  rw [Bool.eq_false_iff]
  intro blank
  have differ := sameLetter_eq_false keyword.2 member' blank
  rw [sameLetter_iff.2 same] at differ
  exact absurd differ (by simp)

theorem ne_nil_of_spells (keyword : isKeyword word = true) (spells : Spells word.toList spelled) :
    spelled ≠ [] := by
  rintro rfl
  have nothing : word.toList = [] := List.map_eq_nil_iff.1 spells
  simp [isKeyword, nothing] at keyword

/-- A text that starts with no blank stays as it is. -/
theorem trimStart_of_visible {run : List Char} (visible : ∀ c ∈ run, isBlank c = false)
    (nonempty : run ≠ []) (cs : List Char) : trimStart (run ++ cs) = run ++ cs := by
  obtain ⟨c, run, rfl⟩ := List.exists_cons_of_ne_nil nonempty
  exact List.dropWhile_cons_of_neg (by simp [visible c List.mem_cons_self])

namespace IsGap

theorem exists_cons (blank : IsGap gap) :
    ∃ c more, gap = c :: more ∧ isBlank c = true ∧ more.all isBlank = true := by
  obtain ⟨c, more, rfl⟩ := List.exists_cons_of_ne_nil blank.1
  have blanks := blank.2
  rw [List.all_cons, Bool.and_eq_true] at blanks
  exact ⟨c, more, rfl, blanks⟩

/-- What follows blanks is read, if it starts with none. -/
theorem blanks?_append (blank : IsGap gap) (trimmed : trimStart cs = cs) :
    blanks? (gap ++ cs) = some cs := by
  obtain ⟨c, more, rfl, first, later⟩ := blank.exists_cons
  rw [List.cons_append, blanks?, if_pos first, trimStart_blank_append later, trimmed]

theorem head (blank : IsGap gap) : ∀ c ∈ (gap ++ cs).head?, isBlank c = true := by
  obtain ⟨c, more, rfl, first, -⟩ := blank.exists_cons
  rintro d ⟨⟩
  exact first

theorem dropQuote_append (blank : IsGap gap) : dropQuote (gap ++ cs) = gap ++ cs := by
  obtain ⟨c, more, rfl, first, -⟩ := blank.exists_cons
  exact if_neg (by rw [isQuote_of_isBlank first]; exact Bool.false_ne_true)

end IsGap

/-- A phrase is read word by word. -/
theorem phrase?_cons_append (spells : Spells word.toList spelled) (blank : IsGap gap)
    (trimmed : trimStart cs = cs) :
    phrase? (word :: words) (spelled ++ (gap ++ cs)) = phrase? words cs := by
  obtain ⟨c, more, rfl, first, later⟩ := blank.exists_cons
  rw [List.cons_append, phrase?_cons spells first, trimStart_blank_append later, trimmed]

namespace Phrase

theorem trimStart_append (phrase : Phrase words lead) (keywords : words.all isKeyword = true)
    (trimmed : trimStart cs = cs) : trimStart (lead ++ cs) = lead ++ cs := by
  cases phrase with
  | nil => exact trimmed
  | cons spelled gap variant =>
    rw [List.all_cons, Bool.and_eq_true] at keywords
    rw [List.append_assoc]
    exact trimStart_of_visible (isBlank_eq_false_of_spells keywords.1 variant.spells)
      (ne_nil_of_spells keywords.1 variant.spells) _

/-- What follows the words of a phrase is read, however they are written. -/
theorem phrase?_append (phrase : Phrase words lead) (keywords : words.all isKeyword = true)
    (trimmed : trimStart cs = cs) : phrase? words (lead ++ cs) = some cs := by
  induction phrase with
  | nil => rfl
  | @cons word words rest spelled gap variant blank more ih =>
    rw [List.all_cons, Bool.and_eq_true] at keywords
    rw [List.append_assoc, List.append_assoc, phrase?_cons_append variant.spells blank
      (more.trimStart_append keywords.2 trimmed), ih keywords.2]

end Phrase

/-! ### Names -/

/-- A quote that may stand before a name or behind it. -/
def Quote := { q : Char // isQuote q = true }

theorem Quote.visible (q : Quote) : isBlank q.val = false := by
  rw [Bool.eq_false_iff]
  intro blank
  exact absurd q.property (by rw [isQuote_of_isBlank blank]; exact Bool.false_ne_true)

/-- The quote that stands in a place, or nothing. -/
def marks (quote : Option Quote) : List Char := quote.elim [] fun q => [q.val]

/-- An identifier, with or without a quote on either side. -/
structure WrittenName where
  opening : Option Quote
  name : Identifier
  closing : Option Quote

theorem isBlank_eq_false_of_mem_marks {quote : Option Quote} {c : Char} (member : c ∈ marks quote) :
    isBlank c = false := by
  cases quote with
  | none => exact absurd member List.not_mem_nil
  | some q =>
    rw [List.mem_singleton.1 member]
    exact q.visible

theorem dropQuote_marks_append (quote : Option Quote) (plain : dropQuote cs = cs) :
    dropQuote (marks quote ++ cs) = cs := by
  cases quote with
  | none => exact plain
  | some q => exact if_pos q.property

/-- A quote ends a name, and so does what follows in its place. -/
theorem stops_marks_append (quote : Option Quote) (ends : ∀ c ∈ v.head?, continuesName c = false) :
    ∀ c ∈ (marks quote ++ v).head?, continuesName c = false := by
  cases quote with
  | none => exact ends
  | some q =>
    rintro c ⟨⟩
    exact continuesName_of_isQuote q.property

/-- A letter from `a` to `z`. -/
def isSmall (c : Char) : Bool := 'a' ≤ c && c ≤ 'z'

/-- Names go on with the letters of the alphabet, in all their cases. -/
theorem continuesName_of_isSmall {c : Char} (small : isSmall (Char.ofNat (letter c)) = true) :
    continuesName c = true := by
  have fold : foldChar c = Char.ofNat (letter c) := by
    rw [foldChar, letter, foldCode]
    cases CaseRun.find? foldRuns c.toNat with
    | none => exact c.ofNat_toNat.symm
    | some => rfl
  rw [continuesName, startsName, fold, ← isSmall, small]
  rfl

namespace WrittenName

variable {n : WrittenName}

/-- The characters of a name as it is written. -/
def chars (n : WrittenName) : List Char := marks n.opening ++ (n.name.chars ++ marks n.closing)

/-- The name without its quotes, in small letters. -/
def text (n : WrittenName) : String := n.name.text

/-- The name is the word `IF`, without quotes. -/
def IsBareIf (n : WrittenName) : Prop :=
  n.opening = none ∧ n.closing = none ∧ Spells "IF".toList n.name.chars

/-- No blank stands in a name. -/
theorem visible (n : WrittenName) : ∀ c ∈ n.chars, isBlank c = false := by
  intro c member
  rw [chars, List.mem_append, List.mem_append] at member
  rcases member with quote | inside | quote
  · exact isBlank_eq_false_of_mem_marks quote
  · rw [Bool.eq_false_iff]
    intro blank
    have goesOn := Identifier.continuesName_of_mem_chars inside
    rw [continuesName_of_isBlank blank] at goesOn
    exact Bool.false_ne_true goesOn
  · exact isBlank_eq_false_of_mem_marks quote

theorem trimStart_chars_append (n : WrittenName) (cs : List Char) :
    trimStart (n.chars ++ cs) = n.chars ++ cs :=
  trimStart_of_visible n.visible (by simp [chars, Identifier.chars]) cs

/-- A name is read without its quotes. -/
theorem name?_append (n : WrittenName) (ends : ∀ c ∈ v.head?, continuesName c = false) :
    name? (n.chars ++ v) = some (n.name.chars, dropQuote (marks n.closing ++ v)) := by
  have plain := n.name.dropQuote_chars_append (marks n.closing ++ v)
  have unquoted : name? (n.chars ++ v) = name? (n.name.chars ++ (marks n.closing ++ v)) := by
    rw [chars, List.append_assoc, List.append_assoc, name?, name?,
      dropQuote_marks_append n.opening plain, plain]
  rw [unquoted, n.name.name?_append (stops_marks_append n.closing ends)]

/-- Where a name stands that is not `IF` without quotes, no condition is read. -/
theorem phrase?_if_eq_none (n : WrittenName) (other : ¬ n.IsBareIf)
    (ends : ∀ c ∈ v.head?, continuesName c = false) (words : List String) :
    phrase? ("IF" :: words) (n.chars ++ v) = none := by
  refine phrase?_eq_none ?_
  rintro ⟨spelled, c, spells, blank, rest, split⟩
  have run : ∀ d ∈ spelled, continuesName d = true := by
    intro d member
    have inside : letter d ∈ "IF".toList.map letter := by
      rw [show "IF".toList.map letter = _ from spells]
      exact List.mem_map_of_mem member
    have small : ∀ a ∈ "IF".toList.map letter, isSmall (Char.ofNat a) = true := by decide
    exact continuesName_of_isSmall (small _ inside)
  have stops : ∀ d ∈ (c :: rest).head?, continuesName d = false := by
    rintro d ⟨⟩
    exact continuesName_of_isBlank blank
  cases opening : n.opening with
  | some q =>
    -- the word would start with the quote
    obtain ⟨d, ds, rfl⟩ := List.exists_cons_of_ne_nil (ne_nil_of_spells (by decide) spells)
    rw [chars, opening] at split
    obtain ⟨rfl, -⟩ := List.cons.inj split
    have goesOn := run _ List.mem_cons_self
    rw [continuesName_of_isQuote q.property] at goesOn
    exact absurd goesOn Bool.false_ne_true
  | none =>
    -- the word would be the name, and the blank would stand right behind it
    have plain : marks none = [] := rfl
    rw [chars, opening, plain, List.nil_append, List.append_assoc, List.singleton_append,
      List.append_assoc] at split
    obtain ⟨rfl, behind⟩ := eq_of_runs split run stops
      (fun _ => Identifier.continuesName_of_mem_chars) (stops_marks_append n.closing ends)
    refine other ⟨opening, ?_, spells⟩
    cases closing : n.closing with
    | none => rfl
    | some q =>
      rw [closing] at behind
      obtain ⟨rfl, -⟩ := List.cons.inj behind
      exact absurd blank (by rw [q.visible]; exact Bool.false_ne_true)

end WrittenName

/-! ### Clauses -/

/-- A clause about an object: its verb and kind, the words of a condition or none, and the name. Without
the condition, the name is not its first word. -/
inductive ObjectShape (verb : String) (condition : List String) (k : ObjectKind) (n : WrittenName) :
    List Char → Prop where
  | plain {lead : List Char} (start : Phrase [verb, k.keyword] lead) (other : ¬ n.IsBareIf) :
      ObjectShape verb condition k n (lead ++ n.chars)
  | conditional {lead words : List Char} (start : Phrase [verb, k.keyword] lead)
      (phrase : Phrase condition words) : ObjectShape verb condition k n (lead ++ (words ++ n.chars))

/-- A clause about a constraint: the words `ALTER TABLE` and the table, those of the action and the name. -/
inductive ConstraintShape (action : List String) (t c : WrittenName) : List Char → Prop where
  | clause {lead gap words : List Char} (start : Phrase ["ALTER", "TABLE"] lead) (blank : IsGap gap)
      (phrase : Phrase action words) :
      ConstraintShape action t c (lead ++ (t.chars ++ (gap ++ (words ++ c.chars))))

theorem ObjectShape.exists_lead {condition : List String} {n : WrittenName}
    (shape : ObjectShape verb condition k n cs) :
    ∃ lead rest, Phrase [verb, k.keyword] lead ∧ cs = lead ++ rest := by
  cases shape with
  | plain start _ => exact ⟨_, _, start, rfl⟩
  | conditional start _ => exact ⟨_, _, start, rfl⟩

theorem ConstraintShape.exists_lead {t c : WrittenName} (shape : ConstraintShape action t c cs) :
    ∃ lead rest, Phrase ["ALTER", "TABLE"] lead ∧ cs = lead ++ rest := by
  cases shape with
  | clause start _ _ => exact ⟨_, _, start, rfl⟩

/-- Behind a verb and a kind, what follows is read as the condition and the name. -/
theorem objectClause?_phrase_append (condition : List String)
    (start : Phrase [verb, k.keyword] lead) (trimmed : trimStart cs = cs) :
    ∃ kind, ObjectKind.ofChars? kind = some k ∧ objectClause? verb condition (lead ++ cs) =
      (nameBehind? condition cs).map fun y => (kind, y.1) := by
  cases start with
  | cons spelled gap variant blank more =>
    cases more with
    | cons kind gap' variant' blank' more =>
      cases more
      have spells := variant'.spells
      have start : phrase? [verb] (spelled ++ (gap ++ (kind ++ (gap' ++ cs)))) =
          some (kind ++ (gap' ++ cs)) :=
        phrase?_cons_append variant.spells blank (trimStart_of_visible
          (isBlank_eq_false_of_spells (isKeyword_keyword k) spells)
          (ne_nil_of_spells (isKeyword_keyword k) spells) _)
      refine ⟨kind, variant'.ofChars?_eq, ?_⟩
      simp only [List.append_nil, List.append_assoc, objectClause?_eq, start, Option.getD_some,
        kindWord?_append spells, Option.bind_some, blank'.blanks?_append trimmed]

/-- Behind `ALTER TABLE` and a table, what follows is read as the action and the name. -/
theorem constraintClause?_phrase_append (action : List String)
    (start : Phrase ["ALTER", "TABLE"] lead) (t : WrittenName) (blank : IsGap gap)
    (trimmed : trimStart cs = cs) :
    constraintClause? action (lead ++ (t.chars ++ (gap ++ cs))) =
      (name? ((phrase? action cs).getD [])).map fun y => (t.name.chars, y.1) := by
  have ends : ∀ c ∈ (gap ++ cs).head?, continuesName c = false := fun c head =>
    continuesName_of_isBlank (blank.head c head)
  have plain : dropQuote (marks t.closing ++ (gap ++ cs)) = gap ++ cs :=
    dropQuote_marks_append t.closing blank.dropQuote_append
  rw [constraintClause?_eq, start.phrase?_append (by decide) (t.trimStart_chars_append _),
    Option.getD_some, t.name?_append ends, plain]
  simp only [Option.bind_some, blank.blanks?_append trimmed, Option.getD_some]

/-- A clause about an object is read as its kind and its name, however it is written. -/
theorem ObjectShape.objectClause?_append {n : WrittenName}
    (shape : ObjectShape verb ("IF" :: words) k n cs)
    (keywords : ("IF" :: words).all isKeyword = true)
    (ends : ∀ c ∈ v.head?, continuesName c = false) :
    ∃ kind, ObjectKind.ofChars? kind = some k ∧
      objectClause? verb ("IF" :: words) (cs ++ v) = some (kind, n.name.chars) := by
  cases shape with
  | @plain lead start other =>
    obtain ⟨kind, spelled, read⟩ :=
      objectClause?_phrase_append ("IF" :: words) start (n.trimStart_chars_append v)
    refine ⟨kind, spelled, ?_⟩
    rw [List.append_assoc, read, nameBehind?, n.phrase?_if_eq_none other ends, n.name?_append ends]
    rfl
  | @conditional lead condition start phrase =>
    have trimmed := n.trimStart_chars_append v
    obtain ⟨kind, spelled, read⟩ :=
      objectClause?_phrase_append ("IF" :: words) start (phrase.trimStart_append keywords trimmed)
    refine ⟨kind, spelled, ?_⟩
    rw [List.append_assoc, List.append_assoc, read, nameBehind?,
      phrase.phrase?_append keywords trimmed, Option.bind_some, n.name?_append ends]
    rfl

/-- A clause about a constraint is read as its table and its name, however it is written. -/
theorem ConstraintShape.constraintClause?_append {t c : WrittenName}
    (shape : ConstraintShape action t c cs) (keywords : action.all isKeyword = true)
    (ends : ∀ d ∈ v.head?, continuesName d = false) :
    constraintClause? action (cs ++ v) = some (t.name.chars, c.name.chars) := by
  cases shape with
  | @clause lead gap words start blank phrase =>
    have trimmed := c.trimStart_chars_append v
    simp only [List.append_assoc]
    rw [constraintClause?_phrase_append action start t blank (phrase.trimStart_append keywords trimmed),
      phrase.phrase?_append keywords trimmed, Option.getD_some, c.name?_append ends]
    rfl

end SchemaHistory.Sql
