import SchemaHistory.Proofs.Target.Written

/-!
Clauses that are found in a statement.

A clause is the first one of a text if none starts before it. In a text without its verb none starts, not
even where the verb stands right behind the text, as the blank that ends a verb is none of its letters. So
what a clause is about is recognized however the clause is written and whatever stands around it. The one
exception is a foreign key: where a constraint is added later in the statement, that one is found.
-/

namespace SchemaHistory.Sql

variable {word verb : String} {words action : List String}
  {spelled gap lead part u v cs rest : List Char} {k : ObjectKind}

/-! ### Where no verb starts -/

/-- A text without a verb has no place where the verb starts, also where it stands right behind the text:
the blank would be one of its letters. -/
theorem not_startsWithVerb_append (keyword : isKeyword word = true)
    (spells : Spells word.toList spelled) (absent : ¬ HasVerb word part) (nonempty : part ≠ [])
    (rest : List Char) : ¬ StartsWithVerb word (part ++ (spelled ++ rest)) := by
  rintro ⟨spelled', c, spells', blank, start⟩
  rcases List.prefix_or_prefix_of_prefix start (List.prefix_append part _) with within | beyond
  · exact absent ⟨spelled', c, spells', blank, within.isInfix⟩
  rcases List.prefix_concat_iff.1 beyond with rfl | ⟨left, rfl⟩
  · exact absent ⟨spelled', c, spells', blank, List.infix_rfl⟩
  rw [List.append_assoc, List.prefix_append_right_inj] at start
  have short : (left ++ [c]).length ≤ spelled.length := by
    have long : spelled.length = part.length + left.length := by
      rw [← spells.length_eq, spells'.length_eq, List.length_append]
    have some : 0 < part.length := List.length_pos_of_ne_nil nonempty
    rw [List.length_append, List.length_singleton]
    omega
  have inside : c ∈ spelled := by
    have start' := List.prefix_of_prefix_length_le start (List.prefix_append spelled rest) short
    exact start'.subset (by simp)
  rw [isBlank_eq_false_of_spells keyword spells c inside] at blank
  exact Bool.false_ne_true blank

/-- In a run of other characters before blanks, a verb starts only where the rest of the run is the verb. -/
theorem spells_of_startsWithVerb (keyword : isKeyword word = true) {run : List Char}
    (visible : ∀ c ∈ run, isBlank c = false) (inside : part <:+ run) (blank : IsGap gap)
    (starts : StartsWithVerb word (part ++ (gap ++ rest))) : Spells word.toList part := by
  obtain ⟨spelled, c, spells, blank', after, split⟩ := starts
  have visible' := isBlank_eq_false_of_spells keyword spells
  rw [List.append_assoc, List.singleton_append] at split
  have same : spelled = part := by
    refine (eq_of_runs (p := fun c => !isBlank c) split ?_ ?_ ?_ ?_).1
    · exact fun d member => by rw [visible' d member]; rfl
    · rintro d ⟨⟩
      rw [blank']
      rfl
    · exact fun d member => by rw [visible d (inside.subset member)]; rfl
    · exact fun d head => by rw [blank.head d head]; rfl
  exact same ▸ spells

/-- No verb starts at a blank. -/
theorem not_startsWithVerb_gap (keyword : isKeyword word = true) (blank : IsGap gap)
    (rest : List Char) : ¬ StartsWithVerb word (gap ++ rest) := by
  intro starts
  have none : ∀ c ∈ ([] : List Char), isBlank c = false := fun c member =>
    absurd member List.not_mem_nil
  exact ne_nil_of_spells keyword (spells_of_startsWithVerb keyword none List.nil_suffix blank starts) rfl

/-- Where a phrase stands, none is read that starts with another word. -/
theorem Phrase.phrase?_eq_none {word' : String} (phrase : Phrase (word' :: words) lead)
    (keywords : isKeyword word = true ∧ isKeyword word' = true)
    (differ : word.toList.map letter ≠ word'.toList.map letter) (words' : List String)
    (rest : List Char) : phrase? (word :: words') (lead ++ rest) = none := by
  cases phrase with
  | cons spelled gap variant blank =>
    refine Sql.phrase?_eq_none fun starts => differ ?_
    rw [List.append_assoc, List.append_assoc] at starts
    have visible := isBlank_eq_false_of_spells keywords.2 variant.spells
    have spells := spells_of_startsWithVerb keywords.1 visible List.suffix_rfl blank starts
    exact Eq.trans spells variant.spells.symm

/-! ### The first clause -/

section Search

variable {α : Type} {clause? : List Char → Option α}

/-- A text in which no clause starts is passed over. -/
theorem firstClause?_append
    (nowhere : ∀ part, part <:+ cs → part ≠ [] → clause? (part ++ rest) = none) :
    firstClause? clause? (cs ++ rest) = firstClause? clause? rest := by
  induction cs with
  | nil => rfl
  | cons c cs ih =>
    have here : clause? (c :: (cs ++ rest)) = none :=
      nowhere (c :: cs) List.suffix_rfl (List.cons_ne_nil c cs)
    rw [List.cons_append, firstClause?, here]
    exact ih fun part inside => nowhere part (inside.trans (List.suffix_cons c cs))

/-- A text without the verb of a clause is passed over. -/
theorem firstClause?_lead_append (needs : ∀ cs, ¬ StartsWithVerb word cs → clause? cs = none)
    (keyword : isKeyword word = true) (start : Phrase (word :: words) lead)
    (absent : ¬ HasVerb word u) (rest : List Char) :
    firstClause? clause? (u ++ (lead ++ rest)) = firstClause? clause? (lead ++ rest) := by
  cases start with
  | cons spelled gap variant =>
    rw [List.append_assoc, firstClause?_append]
    intro part inside nonempty
    have absent' : ¬ HasVerb word part := fun verb => absent (verb.of_part inside.isInfix)
    exact needs _ (not_startsWithVerb_append keyword variant.spells absent' nonempty _)

/-- A clause that starts behind a text without its verb is the first. -/
theorem firstClause?_of_lead {found : α}
    (needs : ∀ cs, ¬ StartsWithVerb word cs → clause? cs = none) (keyword : isKeyword word = true)
    (start : Phrase (word :: words) lead) (absent : ¬ HasVerb word u)
    (read : clause? (lead ++ rest) = some found) :
    firstClause? clause? (u ++ (lead ++ rest)) = some found := by
  rw [firstClause?_lead_append needs keyword start absent, firstClause?_of_some read]
  cases start with
  | cons spelled gap variant => simp [ne_nil_of_spells keyword variant.spells]

end Search

/-! ### Objects -/

/-- A clause about an object is found behind a text without its verb. -/
theorem objectOf?_of_shape {n : WrittenName} (shape : ObjectShape verb ("IF" :: words) k n cs)
    (keywords : (verb :: "IF" :: words).all isKeyword = true) (absent : ¬ HasVerb verb u)
    (ends : ∀ d ∈ v.head?, continuesName d = false) :
    objectOf? verb ("IF" :: words) (String.ofList (u ++ cs ++ v)) = some ⟨k, n.text⟩ := by
  rw [List.all_cons, Bool.and_eq_true] at keywords
  obtain ⟨kind, spelled, read⟩ := shape.objectClause?_append keywords.2 ends
  have first : firstClause? (objectClause? verb ("IF" :: words)) (u ++ (cs ++ v)) =
      some (kind, n.name.chars) := by
    obtain ⟨lead, rest, start, rfl⟩ := shape.exists_lead
    rw [List.append_assoc] at read ⊢
    exact firstClause?_of_lead (fun _ => objectClause?_eq_none_of_start) keywords.1 start absent read
  rw [objectOf?, String.toList_ofList, List.append_assoc, first]
  simp only [Option.bind_eq_bind, Option.bind_some, spelled]
  rfl

/-! ### Constraints -/

/-- A clause about a constraint starts with its verb. -/
theorem constraintClause?_eq_none_of_start (absent : ¬ StartsWithVerb "ALTER" cs) :
    constraintClause? action cs = none :=
  constraintClause?_eq_none (phrase?_eq_none absent)

/-- A clause about a constraint is found behind a text without its verb. -/
theorem constraintOf?_of_shape {t c : WrittenName} (shape : ConstraintShape action t c cs)
    (keywords : action.all isKeyword = true) (absent : ¬ HasVerb "ALTER" u)
    (ends : ∀ d ∈ v.head?, continuesName d = false) :
    constraintOf? action (String.ofList (u ++ cs ++ v)) = some ⟨t.text, c.text⟩ := by
  have read := shape.constraintClause?_append keywords ends
  have first : firstClause? (constraintClause? action) (u ++ (cs ++ v)) =
      some (t.name.chars, c.name.chars) := by
    obtain ⟨lead, rest, start, rfl⟩ := shape.exists_lead
    rw [List.append_assoc] at read ⊢
    exact firstClause?_of_lead (fun _ => constraintClause?_eq_none_of_start) (by decide) start absent read
  rw [constraintOf?, String.toList_ofList, List.append_assoc, first]
  rfl

/-! ### Other actions -/

/-- No clause starts at blanks. -/
theorem firstClause?_gap_append (blank : IsGap gap) (rest : List Char) :
    firstClause? (constraintClause? action) (gap ++ rest) =
      firstClause? (constraintClause? action) rest := by
  refine firstClause?_append fun part inside nonempty => ?_
  have blank' : IsGap part := by
    refine ⟨nonempty, List.all_eq_true.2 fun c member => ?_⟩
    exact List.all_eq_true.1 blank.2 c (inside.subset member)
  exact constraintClause?_eq_none_of_start (not_startsWithVerb_gap (by decide) blank' rest)

/-- No clause starts in words that do not end with its verb. -/
theorem firstClause?_phrase_append (phrase : Phrase words lead) (keywords : words.all isKeyword = true)
    (apart : ∀ word ∈ words, ¬ "ALTER".toList.map letter <:+ word.toList.map letter)
    (rest : List Char) :
    firstClause? (constraintClause? action) (lead ++ rest) =
      firstClause? (constraintClause? action) rest := by
  induction phrase with
  | nil => rfl
  | @cons word words lead spelled gap variant blank more ih =>
    rw [List.all_cons, Bool.and_eq_true] at keywords
    rw [List.forall_mem_cons] at apart
    rw [List.append_assoc, List.append_assoc, firstClause?_append, firstClause?_gap_append blank,
      ih keywords.2 apart.2]
    intro part inside _
    refine constraintClause?_eq_none_of_start fun starts => apart.1 ?_
    have visible := isBlank_eq_false_of_spells keywords.1 variant.spells
    have spells := spells_of_startsWithVerb (by decide) visible inside blank starts
    rw [show "ALTER".toList.map letter = _ from spells,
      show word.toList.map letter = _ from variant.spells]
    exact inside.map letter

/-- No clause starts in a name, as `TABLE` does not follow it. -/
theorem firstClause?_name_append (t : WrittenName) (blank : IsGap gap)
    (trimmed : trimStart cs = cs) (table : phrase? ["TABLE"] cs = none) :
    firstClause? (constraintClause? action) (t.chars ++ (gap ++ cs)) =
      firstClause? (constraintClause? action) cs := by
  rw [firstClause?_append, firstClause?_gap_append blank]
  intro part inside _
  by_cases spells : Spells "ALTER".toList part
  · exact constraintClause?_eq_none ((phrase?_cons_append spells blank trimmed).trans table)
  · refine constraintClause?_eq_none_of_start fun starts => spells ?_
    exact spells_of_startsWithVerb (by decide) t.visible inside blank starts

/-- Where a foreign key is added, no clause adds a constraint: not here, as the words differ, and not later
on without another `ALTER`. -/
theorem firstClause?_foreignKey {act : List Char} {t c : WrittenName}
    (start : Phrase ["ALTER", "TABLE"] lead) (blank : IsGap gap)
    (phrase : Phrase ["ADD", "FOREIGN", "KEY"] act) (absent : ¬ HasVerb "ALTER" (c.chars ++ v)) :
    firstClause? (constraintClause? ["ADD", "CONSTRAINT"])
      (lead ++ (t.chars ++ (gap ++ (act ++ (c.chars ++ v))))) = none := by
  have behind := c.trimStart_chars_append v
  have trimmed := phrase.trimStart_append (by decide) behind
  have other : phrase? ["ADD", "CONSTRAINT"] (act ++ (c.chars ++ v)) = none := by
    cases phrase with
    | cons spelled gap variant blank more =>
      rw [List.append_assoc, List.append_assoc, phrase?_cons_append variant.spells blank
        (more.trimStart_append (by decide) behind)]
      exact more.phrase?_eq_none (by decide) (by decide) [] _
  have here := constraintClause?_phrase_append ["ADD", "CONSTRAINT"] start t blank trimmed
  have last : firstClause? (constraintClause? ["ADD", "CONSTRAINT"]) (c.chars ++ v) = none := by
    refine firstClause?_eq_none fun part inside => constraintClause?_eq_none_of_start fun starts => ?_
    exact absent (starts.hasVerb.of_part inside.isInfix)
  rw [other] at here
  cases start with
  | cons spelled gap' variant blank' more =>
    rw [List.append_assoc, List.append_assoc] at here ⊢
    rw [firstClause?_append, firstClause?_gap_append blank',
      firstClause?_phrase_append more (by decide) (by decide),
      firstClause?_name_append t blank trimmed (phrase.phrase?_eq_none (by decide) (by decide) [] _),
      firstClause?_phrase_append phrase (by decide) (by decide), last]
    intro part inside _
    rcases eq_or_ne part spelled with rfl | shorter
    · exact here
    · refine constraintClause?_eq_none_of_start fun starts => shorter ?_
      have visible := isBlank_eq_false_of_spells (by decide) variant.spells
      have spells := spells_of_startsWithVerb (by decide) visible inside blank' starts
      exact inside.eq_of_length (spells.length_eq.symm.trans variant.spells.length_eq)

theorem constraintOf?_foreignKey {t c : WrittenName}
    (shape : ConstraintShape ["ADD", "FOREIGN", "KEY"] t c cs) (absent : ¬ HasVerb "ALTER" u)
    (absent' : ¬ HasVerb "ALTER" (c.chars ++ v)) :
    constraintOf? ["ADD", "CONSTRAINT"] (String.ofList (u ++ cs ++ v)) = none := by
  cases shape with
  | @clause lead gap words start blank phrase =>
    rw [constraintOf?, String.toList_ofList]
    simp only [List.append_assoc]
    rw [firstClause?_lead_append (fun _ => constraintClause?_eq_none_of_start) (by decide) start absent,
      firstClause?_foreignKey start blank phrase absent']
    rfl

/-! ### Every writing is recognized -/

/-- Clauses are recognized however they are written, behind every text without their verb and before every
text that does not go on with their last name. Of a foreign key this is so if no `ALTER` stands in or
behind its name, as a constraint that is added later would be found instead. -/
theorem shapes_recognized (k : ObjectKind) (n t c : WrittenName) (u v : List Char)
    (ends : ∀ d ∈ v.head?, continuesName d = false) :
    (∀ cs, ObjectShape "CREATE" ["IF", "NOT", "EXISTS"] k n cs → ¬ HasVerb "CREATE" u →
      created? (String.ofList (u ++ cs ++ v)) = some ⟨k, n.text⟩) ∧
    (∀ cs, ObjectShape "DROP" ["IF", "EXISTS"] k n cs → ¬ HasVerb "DROP" u →
      dropped? (String.ofList (u ++ cs ++ v)) = some ⟨k, n.text⟩) ∧
    (∀ cs, ConstraintShape ["ADD", "CONSTRAINT"] t c cs → ¬ HasVerb "ALTER" u →
      constraintAdded? (String.ofList (u ++ cs ++ v)) = some ⟨t.text, c.text⟩) ∧
    (∀ cs, ConstraintShape ["ADD", "FOREIGN", "KEY"] t c cs → ¬ HasVerb "ALTER" u →
      ¬ HasVerb "ALTER" (c.chars ++ v) →
      constraintAdded? (String.ofList (u ++ cs ++ v)) = some ⟨t.text, c.text⟩) ∧
    (∀ cs, ConstraintShape ["DROP", "CONSTRAINT"] t c cs → ¬ HasVerb "ALTER" u →
      constraintDropped? (String.ofList (u ++ cs ++ v)) = some ⟨t.text, c.text⟩) := by
  refine ⟨fun cs shape absent => ?_, fun cs shape absent => ?_, fun cs shape absent => ?_,
    fun cs shape absent absent' => ?_, fun cs shape absent => ?_⟩
  · exact objectOf?_of_shape shape (by decide) absent ends
  · exact objectOf?_of_shape shape (by decide) absent ends
  · rw [constraintAdded?, constraintOf?_of_shape shape (by decide) absent ends]
    rfl
  · rw [constraintAdded?, constraintOf?_foreignKey shape absent absent',
      constraintOf?_of_shape shape (by decide) absent ends]
    rfl
  · exact constraintOf?_of_shape shape (by decide) absent ends

theorem shapes_recognized_mixed :
    ¬ HasVerb "CREATE" "RE-".toList ∧ ¬ HasVerb "DROP" "RE-".toList ∧
    ¬ HasVerb "ALTER" "RE-".toList ∧
    created? "RE-Create\tsequence \nIf not EXISTS  \"Order_2 (id)" = some ⟨.sequence, "order_2"⟩ ∧
    dropped? "RE-DROP  Sequence\n\"Order_2 (id)" = some ⟨.sequence, "order_2"⟩ ∧
    constraintAdded? "RE-alter Table\t\"Order_2 ADD constraint  iF\" (id)" = some ⟨"order_2", "if"⟩ ∧
    constraintAdded? "RE-alter Table\t\"Order_2 ADD foreign\nKey iF\" (id)" =
      some ⟨"order_2", "if"⟩ ∧
    constraintDropped? "RE-alter Table\t\"Order_2 Drop Constraint iF\" (id)" =
      some ⟨"order_2", "if"⟩ := by
  let n : WrittenName := ⟨some ⟨'"', by decide⟩, .ofChars 'O' "rder_2" (by decide), none⟩
  let c : WrittenName := ⟨none, .ofChars 'i' "F" (by decide), some ⟨'"', by decide⟩⟩
  have absent : ¬ HasVerb "CREATE" "RE-".toList ∧ ¬ HasVerb "DROP" "RE-".toList ∧
      ¬ HasVerb "ALTER" "RE-".toList := by decide +kernel
  have absent' : ¬ HasVerb "ALTER" (c.chars ++ " (id)".toList) := by decide +kernel
  have create : Phrase ["CREATE", "SEQUENCE"] "Create\tsequence \n".toList :=
    .cons "Create".toList "\t".toList rfl (by decide)
      (.cons "sequence".toList " \n".toList rfl (by decide) .nil)
  have condition : Phrase ["IF", "NOT", "EXISTS"] "If not EXISTS  ".toList :=
    .cons "If".toList " ".toList rfl (by decide) (.cons "not".toList " ".toList rfl (by decide)
      (.cons "EXISTS".toList "  ".toList rfl (by decide) .nil))
  have drop : Phrase ["DROP", "SEQUENCE"] "DROP  Sequence\n".toList :=
    .cons "DROP".toList "  ".toList rfl (by decide)
      (.cons "Sequence".toList "\n".toList rfl (by decide) .nil)
  have alter : Phrase ["ALTER", "TABLE"] "alter Table\t".toList :=
    .cons "alter".toList " ".toList rfl (by decide)
      (.cons "Table".toList "\t".toList rfl (by decide) .nil)
  have add : Phrase ["ADD", "CONSTRAINT"] "ADD constraint  ".toList :=
    .cons "ADD".toList " ".toList rfl (by decide)
      (.cons "constraint".toList "  ".toList rfl (by decide) .nil)
  have key : Phrase ["ADD", "FOREIGN", "KEY"] "ADD foreign\nKey ".toList :=
    .cons "ADD".toList " ".toList rfl (by decide) (.cons "foreign".toList "\n".toList rfl (by decide)
      (.cons "Key".toList " ".toList rfl (by decide) .nil))
  have drop' : Phrase ["DROP", "CONSTRAINT"] "Drop Constraint ".toList :=
    .cons "Drop".toList " ".toList rfl (by decide)
      (.cons "Constraint".toList " ".toList rfl (by decide) .nil)
  have quoted : ¬ n.IsBareIf := fun bare => Option.some_ne_none _ bare.1
  have space : IsGap " ".toList := by decide
  have ends : ∀ d ∈ " (id)".toList.head?, continuesName d = false := by
    rintro d ⟨⟩
    decide
  obtain ⟨created, dropped, added, foreign, dropped'⟩ :=
    shapes_recognized .sequence n n c "RE-".toList " (id)".toList ends
  refine ⟨absent.1, absent.2.1, absent.2.2, ?_, ?_, ?_, ?_, ?_⟩
  · refine (congrArg created? ?_).trans
      ((created _ (.conditional create condition) absent.1).trans ?_) <;> decide +kernel
  · refine (congrArg dropped? ?_).trans ((dropped _ (.plain drop quoted) absent.2.1).trans ?_) <;>
      decide +kernel
  · refine (congrArg constraintAdded? ?_).trans
      ((added _ (.clause alter space add) absent.2.2).trans ?_) <;> decide +kernel
  · refine (congrArg constraintAdded? ?_).trans
      ((foreign _ (.clause alter space key) absent.2.2 absent').trans ?_) <;> decide +kernel
  · refine (congrArg constraintDropped? ?_).trans
      ((dropped' _ (.clause alter space drop') absent.2.2).trans ?_) <;> decide +kernel

/-- The name of a foreign key may be `ALTER` itself: with the `TABLE` that follows, it starts a clause that
adds a constraint, and that one is found. -/
theorem not_forall_foreignKey_recognized :
    ¬ ∀ (t c : WrittenName) (u v cs : List Char), (∀ d ∈ v.head?, continuesName d = false) →
      ConstraintShape ["ADD", "FOREIGN", "KEY"] t c cs → ¬ Mentions "CREATE" u →
      ¬ Mentions "DROP" u → ¬ Mentions "ALTER" u → ¬ Mentions "ALTER" v →
        constraintAdded? (String.ofList (u ++ cs ++ v)) = some ⟨t.text, c.text⟩ := by
  intro recognized
  let t : WrittenName := ⟨none, .ofChars 't' "" (by decide), none⟩
  let c : WrittenName := ⟨none, .ofChars 'A' "LTER" (by decide), none⟩
  have alter : Phrase ["ALTER", "TABLE"] "ALTER TABLE ".toList :=
    .cons "ALTER".toList " ".toList rfl (by decide)
      (.cons "TABLE".toList " ".toList rfl (by decide) .nil)
  have key : Phrase ["ADD", "FOREIGN", "KEY"] "ADD FOREIGN KEY ".toList :=
    .cons "ADD".toList " ".toList rfl (by decide) (.cons "FOREIGN".toList " ".toList rfl (by decide)
      (.cons "KEY".toList " ".toList rfl (by decide) .nil))
  have space : IsGap " ".toList := by decide
  have ends : ∀ d ∈ " TABLE x ADD CONSTRAINT y".toList.head?, continuesName d = false := by
    rintro d ⟨⟩
    decide
  have read := recognized t c [] " TABLE x ADD CONSTRAINT y".toList _ ends
    (.clause alter space key) (by decide) (by decide) (by decide) (by decide)
  exact absurd read (by decide +kernel)

example : constraintAdded? "ALTER TABLE t ADD FOREIGN KEY ALTER TABLE x ADD CONSTRAINT y" =
    some ⟨"x", "y"⟩ := by
  decide +kernel

end SchemaHistory.Sql
