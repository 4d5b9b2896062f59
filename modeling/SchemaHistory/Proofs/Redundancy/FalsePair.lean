import SchemaHistory.Proofs.Extraction
import SchemaHistory.Proofs.Redundancy.Resolved
import SchemaHistory.Proofs.Script.Plain
import SchemaHistory.Proofs.Target.LeadingName

/-!
Pairs of statements on different objects.

A creation is redundant when a later statement drops an object of the same kind and name, and the names
are those that are read. Two dotted names with one schema are read as the schema, so that whatever is
dropped makes whatever was created redundant. Two quoted names are told apart by the identifiers that
they start with, and by nothing behind them; a quoted name that starts with no identifier is left alone.
-/

namespace SchemaHistory

open Sql
open FilterReason (inQuotes)

/-- The reasons of the statements of a history, in order. -/
def History.reasons (h : History) : List (Option FilterReason) := h.statements.map (·.filter)

/-! ### Histories of two statements -/

namespace History

variable {source sql first second : String}

theorem statements_ofSources_of_two (texts : Sql.statements sql = [first, second]) :
    (ofSources [⟨source, sql⟩]).statements =
      [.unfiltered first source 0, .unfiltered second source 1] := by
  simp [ofSources, texts]

theorem ascending_ofSources (sources : List Source) : (ofSources sources).Ascending :=
  (positions_ofSources sources).imp fun less => Nat.le_of_lt less

theorem undoes_of_two {α : Type} {pairing : Redundancy.Pairing α} {target : α} {q : Nat}
    (texts : Sql.statements sql = [first, second]) :
    pairing.Undoes (ofSources [⟨source, sql⟩]) target q ↔
      (pairing.undone? first = some target ∧ q = 0) ∨
        (pairing.undone? second = some target ∧ q = 1) := by
  simp [Redundancy.Pairing.Undoes, statements_ofSources_of_two texts, Statement.unfiltered, eq_comm]

/-- The first statement is undone by the second one or not at all. -/
theorem isUndone_first_iff {α : Type} {pairing : Redundancy.Pairing α}
    (texts : Sql.statements sql = [first, second]) :
    pairing.IsUndone (ofSources [⟨source, sql⟩]) (.unfiltered first source 0) ↔
      ∃ target, pairing.made? first = some target ∧ pairing.undone? second = some target := by
  have position : Statement.position (.unfiltered first source 0) = 0 := rfl
  constructor
  · rintro ⟨target, q, made, later, undoes⟩
    rcases (undoes_of_two texts).1 undoes with ⟨-, rfl⟩ | ⟨undone, -⟩
    · omega
    · exact ⟨target, made, undone⟩
  · rintro ⟨target, made, undone⟩
    exact ⟨target, 1, made, Nat.one_pos, (undoes_of_two texts).2 (Or.inr ⟨undone, rfl⟩)⟩

/-- Nothing comes after the second statement. -/
theorem not_isUndone_second {α : Type} {pairing : Redundancy.Pairing α}
    (texts : Sql.statements sql = [first, second]) :
    ¬ pairing.IsUndone (ofSources [⟨source, sql⟩]) (.unfiltered second source 1) := by
  have position : Statement.position (.unfiltered second source 1) = 1 := rfl
  rintro ⟨target, q, -, later, undoes⟩
  rcases (undoes_of_two texts).1 undoes with ⟨-, rfl⟩ | ⟨-, rfl⟩ <;> omega

/-- In a resolved history of two statements only the first one can have a reason. -/
theorem reasons_resolve_of_two (texts : Sql.statements sql = [first, second]) :
    (ofSources [⟨source, sql⟩]).resolve.reasons =
      [Redundancy.reasonFor? (ofSources [⟨source, sql⟩]) (.unfiltered first source 0), none] := by
  have kept : Redundancy.reasonFor? (ofSources [⟨source, sql⟩])
      (.unfiltered second source 1) = none := by
    rw [Redundancy.reasonFor?,
      (Redundancy.Pairing.reasonFor?_eq_none_iff (ascending_ofSources _)).2 (not_isUndone_second texts),
      (Redundancy.Pairing.reasonFor?_eq_none_iff (ascending_ofSources _)).2 (not_isUndone_second texts)]
    rfl
  have unfiltered : ∀ text position, (Statement.unfiltered text source position).filter = none :=
    fun _ _ => rfl
  rw [reasons, statements_resolve, List.map_map, statements_ofSources_of_two texts]
  simp only [List.map_cons, List.map_nil, Function.comp_apply,
    Statement.filter_orMark_of_none (unfiltered _ _), kept]

/-- The second statement drops what the first one creates. -/
theorem reasons_resolve_of_dropped {object : ObjectRef} (texts : Sql.statements sql = [first, second])
    (created : created? first = some object) (dropped : dropped? second = some object) :
    (ofSources [⟨source, sql⟩]).resolve.reasons =
      [some (.createDropped object.kind object.name 1), none] := by
  have undoes : Redundancy.objects.Undoes (ofSources [⟨source, sql⟩]) object 1 :=
    (undoes_of_two texts).2 (Or.inr ⟨dropped, rfl⟩)
  have least : IsLeast {q | 0 < q ∧
      Redundancy.objects.Undoes (ofSources [⟨source, sql⟩]) object q} 1 :=
    ⟨⟨Nat.one_pos, undoes⟩, fun q later => later.1⟩
  rw [reasons_resolve_of_two texts, Redundancy.reasonFor?,
    (Redundancy.Pairing.reasonFor?_eq_some_iff (ascending_ofSources _)).2
      ⟨object, 1, created, least, rfl⟩]
  rfl

/-- The second statement drops no object that the first one creates, and no constraint. -/
theorem reasons_resolve_of_apart (texts : Sql.statements sql = [first, second])
    (apart : ∀ object, created? first = some object → dropped? second ≠ some object)
    (noConstraint : constraintDropped? second = none) :
    (ofSources [⟨source, sql⟩]).resolve.reasons = [none, none] := by
  have object : Redundancy.objects.reasonFor? (ofSources [⟨source, sql⟩])
      (.unfiltered first source 0) = none := by
    rw [Redundancy.Pairing.reasonFor?_eq_none_iff (ascending_ofSources _), isUndone_first_iff texts]
    rintro ⟨object, created, dropped⟩
    exact apart object created dropped
  have constraint : Redundancy.constraints.reasonFor? (ofSources [⟨source, sql⟩])
      (.unfiltered first source 0) = none := by
    rw [Redundancy.Pairing.reasonFor?_eq_none_iff (ascending_ofSources _), isUndone_first_iff texts]
    rintro ⟨constraint, -, dropped⟩
    exact absurd (noConstraint.symm.trans dropped) (Option.some_ne_none _).symm
  rw [reasons_resolve_of_two texts, Redundancy.reasonFor?, object, constraint]
  rfl

end History

/-! ### A creation and a dropping -/

/-- A migration that creates one object and drops another, with the names as they are written. -/
def createThenDrop (k : ObjectKind) (created dropped rest : String) : String :=
  "CREATE " ++ k.keyword ++ " " ++ created ++ " " ++ rest ++ "; DROP " ++ k.keyword ++ " " ++ dropped ++
    ";"

/-- The first statement of such a migration, as it is read. -/
def creation (k : ObjectKind) (created rest : String) : String :=
  "CREATE " ++ k.keyword ++ " " ++ created ++ String.ofList (trimEnd (closeUp (' ' :: rest.toList)))

/-- The second statement of such a migration. -/
def dropping (k : ObjectKind) (dropped : String) : String := "DROP " ++ k.keyword ++ " " ++ dropped

/-- The reasons of the two statements, once the history of the migration is resolved. -/
def reasonsAfter (source : String) (k : ObjectKind) (created dropped rest : String) :
    List (Option FilterReason) :=
  (History.ofSources [⟨source, createThenDrop k created dropped rest⟩]).resolve.reasons

theorem toList_creation (k : ObjectKind) (created rest : String) :
    (creation k created rest).toList = "CREATE".toList ++ ' ' :: (k.keyword.toList ++
      ' ' :: (created.toList ++ trimEnd (closeUp (' ' :: rest.toList)))) := by
  simp [creation]

theorem toList_dropping (k : ObjectKind) (dropped : String) : (dropping k dropped).toList =
    "DROP".toList ++ ' ' :: (k.keyword.toList ++ ' ' :: dropped.toList) := by
  simp [dropping]

theorem inline_clause {verb : String} (k : ObjectKind) {name : List Char} (word : Inline verb.toList)
    (line : Inline name) : Inline (verb.toList ++ ' ' :: (k.keyword.toList ++ ' ' :: name)) := by
  have kind : Inline k.keyword.toList := .of_all (by cases k <;> decide) (by cases k <;> decide)
  exact word.append_cons (kind.append_cons line (by decide)) (by decide)

theorem toList_createThenDrop (k : ObjectKind) (created dropped rest : String) :
    (createThenDrop k created dropped rest).toList =
      (("CREATE".toList ++ ' ' :: (k.keyword.toList ++ ' ' :: created.toList)) ++ ' ' :: rest.toList) ++
        ';' :: (' ' :: ("DROP".toList ++ ' ' :: (k.keyword.toList ++ ' ' :: dropped.toList)) ++
          ';' :: []) := by
  unfold createThenDrop
  simp only [String.toList_append, List.append_assoc, List.cons_append]
  rfl

/-- The two statements of the migration. -/
theorem statements_createThenDrop (k : ObjectKind) {created dropped rest : String}
    (line : Inline created.toList) (line' : Inline dropped.toList) (plain : Plain rest.toList) :
    Sql.statements (createThenDrop k created dropped rest) =
      [creation k created rest, dropping k dropped] := by
  have create := inline_clause k (.of_all (by decide) (by decide) : Inline "CREATE".toList) line
  have drop := inline_clause k (.of_all (by decide) (by decide) : Inline "DROP".toList) line'
  have texts := create.statementsOf_two plain drop
  rw [← toList_createThenDrop, ← toList_dropping, List.append_assoc, List.cons_append,
    List.append_assoc, List.cons_append, ← toList_creation] at texts
  rw [Sql.statements, texts]
  simp

/-- What follows the name has no verb that the rest of the migration does not have. -/
theorem hasVerb_of_trimEnd_closeUp {verb rest : String} (known : verb ∈ objectVerbs)
    (has : HasVerb verb (trimEnd (closeUp (' ' :: rest.toList)))) : HasVerb verb rest.toList := by
  have newline := letter_notMem_objectVerb (c := '\n') known (by simp)
  have space := letter_notMem_objectVerb (c := ' ') known (by simp)
  have inRest := (has.of_part (trimEnd_isPrefix _).isInfix).of_closeUp newline
  rcases (hasVerb_append_cons_iff (a := []) space).1 inRest with first | behind
  · exact absurd first.mentions_of_append_singleton (not_mentions_nil_of_objectVerb known)
  · exact behind

/-! ### Names in the two statements -/

theorem inline_chars (n : Identifier) : Inline n.chars := by
  refine .of_all (List.cons_ne_nil _ _) (List.all_eq_true.2 fun c member => ?_)
  have goesOn := Identifier.continuesName_of_mem_chars member
  rw [isPlain, Bool.and_eq_true, Bool.not_eq_true', Bool.not_eq_true', Bool.eq_false_iff,
    Bool.eq_false_iff]
  constructor
  · intro mark
    simp only [List.contains_cons, List.contains_nil, Bool.or_false, Bool.or_eq_true, beq_iff_eq] at mark
    rcases mark with rfl | rfl | rfl | rfl <;> exact absurd goesOn (by decide)
  · intro blank
    rw [continuesName_of_isBlank blank] at goesOn
    exact Bool.false_ne_true goesOn

/-- A name with its schema. -/
def dotted (s x : Identifier) : String := s.spelling ++ "." ++ x.spelling

theorem toList_dotted (s x : Identifier) : (dotted s x).toList = s.chars ++ '.' :: x.chars := by
  simp [dotted, Identifier.spelling]

theorem toList_inQuotes (n : String) :
    (inQuotes n).toList = '"' :: (n.toList ++ '"' :: []) := by
  simp [inQuotes]

theorem inline_inQuotes {n : String} (plain : Plain n.toList) (oneLine : '\n' ∉ n.toList) :
    Inline (inQuotes n).toList := by
  rw [toList_inQuotes]
  exact {
    toPlain := (plain_append_cons_iff (a := []) (by decide)).2
      ⟨plain_nil, (plain_append_cons_iff (by decide)).2 ⟨plain, plain_nil⟩⟩
    nonempty := List.cons_ne_nil _ _
    first := by
      rintro c ⟨⟩
      decide
    last := by
      rw [← List.cons_append, List.getLast?_append]
      rintro c ⟨⟩
      decide
    oneLine := by simp [oneLine] }

/-! ### What is paired -/

/-- A creation and a dropping in one schema are taken for the same object. -/
theorem reasonsAfter_dotted (source : String) (k : ObjectKind) (s x y : Identifier) {rest : String}
    (plain : Plain rest.toList) : reasonsAfter source k (dotted s x) (dotted s y) rest =
      [some (.createDropped k s.text 1), none] := by
  have inlineDotted : ∀ x : Identifier, Inline (dotted s x).toList := by
    intro x
    rw [toList_dotted]
    exact (inline_chars s).append_cons (inline_chars x) (by decide)
  have texts := statements_createThenDrop k (inlineDotted x) (inlineDotted y) plain
  have created : created? (creation k (dotted s x) rest) = some ⟨k, s.text⟩ := by
    refine objectOf?_dotted s (x.chars ++ trimEnd (closeUp (' ' :: rest.toList))) ?_
    rw [toList_creation, toList_dotted, List.append_assoc]
    rfl
  have dropped : dropped? (dropping k (dotted s y)) = some ⟨k, s.text⟩ := by
    refine objectOf?_dotted s y.chars ?_
    rw [toList_dropping, toList_dotted]
  exact History.reasons_resolve_of_dropped texts created dropped

theorem created?_creation_inQuotes (k : ObjectKind) (n₁ rest : String) :
    (∀ m : Identifier, m.Leads n₁.toList → created? (creation k (inQuotes n₁) rest) = some ⟨k, m.text⟩) ∧
    ((∀ m : Identifier, ¬ m.Leads n₁.toList) → ¬ HasVerb "CREATE" n₁.toList →
      ¬ HasVerb "CREATE" rest.toList → created? (creation k (inQuotes n₁) rest) = none) := by
  have split : (creation k (inQuotes n₁) rest).toList = "CREATE".toList ++ ' ' :: (k.keyword.toList ++
      ' ' :: '"' :: (n₁.toList ++ '"' :: trimEnd (closeUp (' ' :: rest.toList)))) := by
    rw [toList_creation, toList_inQuotes]
    simp
  have create : "CREATE" ∈ objectVerbs := by decide
  have ⟨named, unnamed⟩ := objectOf?_quoted create ["NOT", "EXISTS"] split
  refine ⟨named, fun never quiet quiet' => unnamed never quiet ?_⟩
  exact fun has => quiet' (hasVerb_of_trimEnd_closeUp create has)

theorem dropped?_dropping_inQuotes (k : ObjectKind) (n₂ : String) :
    (∀ m : Identifier, m.Leads n₂.toList → dropped? (dropping k (inQuotes n₂)) = some ⟨k, m.text⟩) ∧
    (¬ HasVerb "DROP" n₂.toList →
      ((∀ m : Identifier, ¬ m.Leads n₂.toList) → dropped? (dropping k (inQuotes n₂)) = none) ∧
      constraintDropped? (dropping k (inQuotes n₂)) = none) := by
  have split : (dropping k (inQuotes n₂)).toList = "DROP".toList ++ ' ' :: (k.keyword.toList ++
      ' ' :: '"' :: (n₂.toList ++ '"' :: [])) := by
    rw [toList_dropping, toList_inQuotes]
  have drop : "DROP" ∈ objectVerbs := by decide
  have ⟨named, unnamed⟩ := objectOf?_quoted drop ["EXISTS"] split
  have nothing : ¬ HasVerb "DROP" [] := fun has =>
    not_mentions_nil_of_objectVerb drop has.mentions
  refine ⟨named, fun quiet => ⟨fun never => unnamed never quiet nothing, constraintOf?_eq_none ?_⟩⟩
  rw [split]
  exact fun has => (hasVerb_of_quoted drop has).elim quiet nothing

section Quoted

variable {k : ObjectKind} {n₁ n₂ rest : String}

/-- Quoted names that start with the same identifier are taken for the same object. -/
theorem reasonsAfter_inQuotes_of_same (source : String) (line₁ : Inline (inQuotes n₁).toList)
    (line₂ : Inline (inQuotes n₂).toList) (plain : Plain rest.toList) {m₁ m₂ : Identifier}
    (leads₁ : m₁.Leads n₁.toList) (leads₂ : m₂.Leads n₂.toList) (same : m₁.text = m₂.text) :
    reasonsAfter source k (inQuotes n₁) (inQuotes n₂) rest =
      [some (.createDropped k m₁.text 1), none] := by
  have texts := statements_createThenDrop k line₁ line₂ plain
  have created := (created?_creation_inQuotes k n₁ rest).1 m₁ leads₁
  have dropped := (dropped?_dropping_inQuotes k n₂).1 m₂ leads₂
  exact History.reasons_resolve_of_dropped texts created (same ▸ dropped)

/-- Quoted names that do not start with the same identifier are told apart. -/
theorem reasonsAfter_inQuotes_of_apart (source : String) (line₁ : Inline (inQuotes n₁).toList)
    (line₂ : Inline (inQuotes n₂).toList) (plain : Plain rest.toList)
    (quiet₁ : ¬ HasVerb "CREATE" n₁.toList) (quiet₂ : ¬ HasVerb "DROP" n₂.toList)
    (quiet : ¬ HasVerb "CREATE" rest.toList) (apart : ∀ m₁ m₂ : Identifier,
      m₁.Leads n₁.toList → m₂.Leads n₂.toList → m₁.text ≠ m₂.text) :
    reasonsAfter source k (inQuotes n₁) (inQuotes n₂) rest = [none, none] := by
  have texts := statements_createThenDrop k line₁ line₂ plain
  have ⟨created, nothingCreated⟩ := created?_creation_inQuotes k n₁ rest
  have ⟨dropped, unnamed⟩ := dropped?_dropping_inQuotes k n₂
  have ⟨nothingDropped, noConstraint⟩ := unnamed quiet₂
  refine History.reasons_resolve_of_apart texts (fun object made undone => ?_) noConstraint
  by_cases named : (∃ m₁ : Identifier, m₁.Leads n₁.toList) ∧ ∃ m₂ : Identifier, m₂.Leads n₂.toList
  · obtain ⟨⟨m₁, leads₁⟩, m₂, leads₂⟩ := named
    rw [created m₁ leads₁] at made
    rw [dropped m₂ leads₂, ← made] at undone
    exact apart m₁ m₂ leads₁ leads₂ (congrArg ObjectRef.name (Option.some.inj undone)).symm
  · rw [not_and_or, not_exists, not_exists] at named
    rcases named with never | never
    · rw [nothingCreated never quiet₁ quiet] at made
      exact absurd made (Option.some_ne_none _).symm
    · rw [nothingDropped never] at undone
      exact absurd undone (Option.some_ne_none _).symm

end Quoted

/-- What is paired where an object is created and another one dropped. Two objects of one schema always
are, and two quoted names are if they start with the same identifier. Otherwise two quoted names are told
apart, where no other clause stands in them or behind them. -/
theorem pairs_by_leading_names (source : String) (k : ObjectKind) (s x y : Identifier)
    (n₁ n₂ rest : String) (plain₁ : Plain n₁.toList) (oneLine₁ : '\n' ∉ n₁.toList)
    (plain₂ : Plain n₂.toList) (oneLine₂ : '\n' ∉ n₂.toList) (plain : Plain rest.toList) :
    reasonsAfter source k (dotted s x) (dotted s y) rest = [some (.createDropped k s.text 1), none] ∧
    (∀ m₁ m₂ : Identifier, m₁.Leads n₁.toList → m₂.Leads n₂.toList → m₁.text = m₂.text →
      reasonsAfter source k (inQuotes n₁) (inQuotes n₂) rest =
        [some (.createDropped k m₁.text 1), none]) ∧
    (¬ HasVerb "CREATE" n₁.toList → ¬ HasVerb "DROP" n₂.toList → ¬ HasVerb "CREATE" rest.toList →
      (∀ m₁ m₂ : Identifier, m₁.Leads n₁.toList → m₂.Leads n₂.toList → m₁.text ≠ m₂.text) →
      reasonsAfter source k (inQuotes n₁) (inQuotes n₂) rest = [none, none]) := by
  have line₁ := inline_inQuotes plain₁ oneLine₁
  have line₂ := inline_inQuotes plain₂ oneLine₂
  refine ⟨reasonsAfter_dotted source k s x y plain, fun m₁ m₂ leads₁ leads₂ same => ?_,
    fun quiet₁ quiet₂ quiet apart => ?_⟩
  · exact reasonsAfter_inQuotes_of_same source line₁ line₂ plain leads₁ leads₂ same
  · exact reasonsAfter_inQuotes_of_apart source line₁ line₂ plain quiet₁ quiet₂ quiet apart

/-- The tables `app.users` and `app.orders`, and `"my-users"` and `"my-orders"`. -/
theorem pairs_by_leading_names_users_orders :
    let app : Identifier := .ofChars 'a' "pp" (by decide)
    let users : Identifier := .ofChars 'u' "sers" (by decide)
    let orders : Identifier := .ofChars 'o' "rders" (by decide)
    (Plain "my-users".toList ∧ '\n' ∉ "my-users".toList ∧ Plain "my-orders".toList ∧
      '\n' ∉ "my-orders".toList ∧ Plain "(id INT)".toList) ∧
    reasonsAfter "init" .table (dotted app users) (dotted app orders) "(id INT)" =
      [some (.createDropped .table "app" 1), none] ∧
    reasonsAfter "init" .table (inQuotes "my-users") (inQuotes "my-orders") "(id INT)" =
      [some (.createDropped .table "my" 1), none] := by
  intro app users orders
  let my : Identifier := .ofChars 'm' "y" (by decide)
  have users_plain : Plain "my-users".toList := by decide
  have orders_plain : Plain "my-orders".toList := by decide
  have columns_plain : Plain "(id INT)".toList := by decide
  have ⟨inSchema, inQuotation, _⟩ := pairs_by_leading_names "init" .table app users orders "my-users"
    "my-orders" "(id INT)" users_plain (by decide) orders_plain (by decide) columns_plain
  refine ⟨⟨users_plain, by decide, orders_plain, by decide, columns_plain⟩, inSchema, ?_⟩
  have leads : my.Leads "my-users".toList := ⟨"-users".toList, rfl, by rintro c ⟨⟩; decide⟩
  have leads' : my.Leads "my-orders".toList := ⟨"-orders".toList, rfl, by rintro c ⟨⟩; decide⟩
  exact inQuotation my my leads leads' rfl

/-- Differently named objects are paired, with a schema before their names as well as in quotes. -/
theorem not_forall_names_apart :
    (¬ ∀ (k : ObjectKind) (s x y : Identifier) (rest : String), x.text ≠ y.text → Plain rest.toList →
      ¬ Mentions "CREATE" rest.toList → ¬ Mentions "DROP" rest.toList →
        (reasonsAfter "init" k (dotted s x) (dotted s y) rest).head? = some none) ∧
    ¬ ∀ (k : ObjectKind) (n₁ n₂ rest : String), n₁ ≠ "" → n₂ ≠ "" →
      lower n₁.toList ≠ lower n₂.toList → (∀ c ∈ n₁.toList ++ n₂.toList, isQuote c = false ∧ c ≠ '\n') →
      (∀ part ∈ [n₁, n₂, rest], Plain part.toList ∧ ¬ Mentions "CREATE" part.toList ∧
        ¬ Mentions "DROP" part.toList) →
        (reasonsAfter "init" k (inQuotes n₁) (inQuotes n₂) rest).head? = some none := by
  constructor
  · intro apart
    have kept := apart .table (.ofChars 'a' "pp" (by decide)) (.ofChars 'u' "sers" (by decide))
      (.ofChars 'o' "rders" (by decide)) "(id INT)" (by decide) (by decide) (by decide) (by decide)
    exact absurd kept (by decide +kernel)
  · intro apart
    have clean : ("my-users".toList ++ "my-orders".toList).all
        (fun c => isQuote c == false && c != '\n') = true := by decide
    have kept := apart .table "my-users" "my-orders" "(id INT)" (by decide) (by decide) (by decide)
      (fun c member => by simpa using List.all_eq_true.1 clean c member) (by decide)
    exact absurd kept (by decide +kernel)

end SchemaHistory
