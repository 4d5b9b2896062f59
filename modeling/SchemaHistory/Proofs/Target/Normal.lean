import SchemaHistory.Proofs.Target.Condensed

/-!
Statements that are equivalent are about the same objects.

A clause is read in a condensed text where it is read in the text itself, so that the first clause is the
same but for its case. Kinds and names are told apart without their case, and so what is recognized in an
ASCII statement is what is recognized in its normal form.
-/

namespace SchemaHistory.Sql

variable {c : Char} {cs ds : List Char} {verb : String} {condition action : List String}

/-! ### Clauses -/

/-- Two pairs of texts are the same but for their case, the second in small letters. -/
structure SamePair (x y : List Char × List Char) : Prop where
  ascii : x.1.all isAscii = true
  ascii' : x.2.all isAscii = true
  small : y.1 = x.1.map Char.toLower
  small' : y.2 = x.2.map Char.toLower

theorem SameRead.samePair {x y u v : List Char × List Char} (first : SameRead x y)
    (second : SameRead u v) : SamePair (x.1, u.1) (y.1, v.1) :=
  ⟨first.ascii, second.ascii, first.small, second.small⟩

namespace Condenses

theorem kindWord? (condensed : Condenses cs ds) :
    Option.Rel SameRead (kindWord? cs) (kindWord? ds) :=
  rel_findSome? _ fun k _ => condensed.word? (by cases k <;> decide)

theorem nameBehind? (condensed : Condenses cs ds)
    (solid : condition.all (isSolid ·.toList) = true) :
    Option.Rel SameRead (nameBehind? condition cs) (nameBehind? condition ds) := by
  rw [nameBehind?_eq, nameBehind?_eq]
  exact rel_orElse (condensed.phrase? solid).name? condensed.name?

theorem objectClause? (condensed : Condenses cs ds)
    (solid : (verb :: condition).all (isSolid ·.toList) = true) :
    Option.Rel SamePair (objectClause? verb condition cs) (objectClause? verb condition ds) := by
  rw [List.all_cons, Bool.and_eq_true] at solid
  have solidVerb : [verb].all (isSolid ·.toList) = true := by simpa using solid.1
  have behindVerb := condensed.phrase? solidVerb
  rw [objectClause?_eq, objectClause?_eq]
  refine rel_bind behindVerb.kindWord? fun x y kind => ?_
  exact rel_map (kind.rest.blanks?.nameBehind? solid.2) fun u v name => kind.samePair name

theorem constraintClause? (condensed : Condenses cs ds)
    (solid : action.all (isSolid ·.toList) = true) :
    Option.Rel SamePair (constraintClause? action cs) (constraintClause? action ds) := by
  rw [constraintClause?_eq, constraintClause?_eq]
  refine rel_bind (condensed.phrase? (by decide)).name? fun x y table => ?_
  exact rel_map (table.rest.blanks?.phrase? solid).name? fun u v name => table.samePair name

end Condenses

/-! ### The first clause -/

section Search

variable {α : Type} {clause? : List Char → Option α}

/-- Blanks at the start of a text are passed over, as no clause starts at one. -/
theorem firstClause?_trimStart (starts : ∀ c cs, isBlank c = true → clause? (c :: cs) = none)
    (cs : List Char) : firstClause? clause? (trimStart cs) = firstClause? clause? cs := by
  induction cs with
  | nil => rfl
  | cons c cs ih =>
    cases blank : isBlank c with
    | true =>
      rw [trimStart, List.dropWhile_cons_of_pos blank, ← trimStart, ih, firstClause?,
        starts c cs blank]
    | false => rw [trimStart, List.dropWhile_cons_of_neg (by simp [blank])]

/-- If clauses are read alike in a text and where it is condensed, so is the first one. -/
theorem Condenses.firstClause? {R : α → α → Prop} (condensed : Condenses cs ds)
    (starts : ∀ c cs, isBlank c = true → clause? (c :: cs) = none)
    (each : ∀ cs ds, Condenses cs ds → Option.Rel R (clause? cs) (clause? ds)) :
    Option.Rel R (firstClause? clause? cs) (firstClause? clause? ds) := by
  induction condensed with
  | @blank cs blank =>
    rw [← firstClause?_trimStart starts, trimStart_eq_nil_iff.2 blank]
    exact .none
  | @letter c cs ds ascii visible rest ih =>
    have here := each _ _ (.letter ascii visible rest)
    rw [Sql.firstClause?, Sql.firstClause?]
    generalize clause? (c :: cs) = x at here ⊢
    generalize clause? (c.toLower :: ds) = y at here ⊢
    cases here with
    | none => exact ih
    | some pair => exact .some pair
  | @gap c cs ds blank _ ih =>
    rw [Sql.firstClause?, starts c cs blank, Sql.firstClause?, starts ' ' ds isBlank_space,
      ← firstClause?_trimStart starts]
    exact ih

end Search

/-! ### Normal forms -/

theorem toList_normal (sql : String) : (normal sql).toList = normalChars sql.toList := by
  rw [normal, String.toList_ofList]

theorem nameText_toLower {n : List Char} (ascii : n.all isAscii = true) :
    nameText (n.map Char.toLower) = nameText n := by
  rw [nameText, lower_map_toLower ascii, nameText]

theorem ofChars?_toLower {kind : List Char} (ascii : kind.all isAscii = true) :
    ObjectKind.ofChars? (kind.map Char.toLower) = ObjectKind.ofChars? kind := by
  have capitals : (kind.map Char.toLower).map Char.toUpper = kind.map Char.toUpper := by
    rw [List.map_map]
    exact List.map_congr_left fun c member => toUpper_toLower (List.all_eq_true.1 ascii c member)
  rw [ObjectKind.ofChars?, ObjectKind.ofChars?, capitals]

/-- The object that a clause is about is the same in the normal form of a statement. -/
theorem objectOf?_normal {sql : String} (ascii : sql.toList.all isAscii = true)
    (solid : (verb :: condition).all (isSolid ·.toList) = true) (nonempty : verb.toList ≠ []) :
    objectOf? verb condition (normal sql) = objectOf? verb condition sql := by
  have starts : ∀ c cs, isBlank c = true → objectClause? verb condition (c :: cs) = none := by
    intro c cs blank
    rw [List.all_cons, Bool.and_eq_true] at solid
    rw [objectClause?, phrase?_blank_cons solid.1 nonempty [] blank]
    rfl
  have first := (condenses_normalChars ascii).firstClause? starts fun _ _ condensed =>
    condensed.objectClause? solid
  rw [firstClause?_trimStart starts] at first
  rw [objectOf?, objectOf?, toList_normal]
  generalize firstClause? (objectClause? verb condition) sql.toList = x at first ⊢
  generalize firstClause? (objectClause? verb condition) (normalChars sql.toList) = y at first ⊢
  cases first with
  | none => rfl
  | @some x y pair =>
    simp only [Option.bind_eq_bind, Option.bind_some, pair.small, pair.small',
      ofChars?_toLower pair.ascii, nameText_toLower pair.ascii']

/-- The constraint that a clause is about is the same in the normal form of a statement. -/
theorem constraintOf?_normal {sql : String} (ascii : sql.toList.all isAscii = true)
    (solid : action.all (isSolid ·.toList) = true) :
    constraintOf? action (normal sql) = constraintOf? action sql := by
  have starts : ∀ c cs, isBlank c = true → constraintClause? action (c :: cs) = none := by
    intro c cs blank
    rw [constraintClause?, phrase?_blank_cons (by decide) (by decide) ["TABLE"] blank]
    rfl
  have first := (condenses_normalChars ascii).firstClause? starts fun _ _ condensed =>
    condensed.constraintClause? solid
  rw [firstClause?_trimStart starts] at first
  rw [constraintOf?, constraintOf?, toList_normal]
  generalize firstClause? (constraintClause? action) sql.toList = x at first ⊢
  generalize firstClause? (constraintClause? action) (normalChars sql.toList) = y at first ⊢
  cases first with
  | none => rfl
  | @some x y pair =>
    simp only [Option.bind_eq_bind, Option.bind_some, pair.small, pair.small',
      nameText_toLower pair.ascii, nameText_toLower pair.ascii']

/-- The same is recognized in two statements. -/
structure SameTargets (a b : String) : Prop where
  created : created? a = created? b
  dropped : dropped? a = dropped? b
  constraintAdded : constraintAdded? a = constraintAdded? b
  constraintDropped : constraintDropped? a = constraintDropped? b

theorem sameTargets_normal {sql : String} (ascii : sql.toList.all isAscii = true) :
    SameTargets (normal sql) sql where
  created := objectOf?_normal ascii (by decide) (by decide)
  dropped := objectOf?_normal ascii (by decide) (by decide)
  constraintAdded := by
    rw [constraintAdded?, constraintOf?_normal ascii (by decide),
      constraintOf?_normal ascii (by decide), constraintAdded?]
  constraintDropped := constraintOf?_normal ascii (by decide)

/-- In an ASCII statement the same is recognized as in its normal form, and as in every ASCII statement that
is equivalent to it. -/
theorem recognized_by_normal_form (a : String) (ascii : a.toList.all isAscii = true) :
    SameTargets (normal a) a ∧
      ∀ b : String, b.toList.all isAscii = true → equivalent a b = true → SameTargets a b := by
  refine ⟨sameTargets_normal ascii, fun b ascii' same => ?_⟩
  have form : normal a = normal b := eq_of_beq same
  have left := sameTargets_normal ascii
  have right := sameTargets_normal ascii'
  rw [form] at left
  exact ⟨left.created.symm.trans right.created, left.dropped.symm.trans right.dropped,
    left.constraintAdded.symm.trans right.constraintAdded,
    left.constraintDropped.symm.trans right.constraintDropped⟩

theorem recognized_by_normal_form_indented :
    let a := "\n  re-create TABLE\t if Not\n EXISTS `Order_Items' (id INT);CREATE VIEW v "
    let b := "RE-CREATE table IF NOT EXISTS `ORDER_items' (ID int);create view V"
    a.toList.all isAscii = true ∧ b.toList.all isAscii = true ∧ equivalent a b = true ∧
      SameTargets (normal a) a ∧ SameTargets a b := by
  intro a b
  have ascii : a.toList.all isAscii = true := by decide +kernel
  have ascii' : b.toList.all isAscii = true := by decide +kernel
  have same : equivalent a b = true := by decide +kernel
  obtain ⟨form, equivalents⟩ := recognized_by_normal_form a ascii
  exact ⟨ascii, ascii', same, form, equivalents b ascii' same⟩

/-- Outside ASCII the two can differ: the small form of the dotted capital I starts with a letter that a name
can start with. -/
example : created? "CREATE TABLE \u0130 (id INT)" = none ∧
    created? (normal "CREATE TABLE \u0130 (id INT)") = some ⟨.table, "i"⟩ := by
  decide +kernel

end SchemaHistory.Sql
