import SchemaHistory.Proofs.Target.Clause
import SchemaHistory.Proofs.Text.Words

/-!
What is recognized in a statement and in its normal form.

The normal form of an ASCII statement is the statement in small letters, with one space for each run of
blanks and none at the ends. No reader of a clause can tell the two apart: words are read whatever their
case, blanks are passed over however many they are, and names are made small in the end. What stands at
the end of a text may be blanks in one and nothing in the other, but nothing is read there.
-/

namespace SchemaHistory.Sql

variable {c : Char} {w cs ds : List Char}

/-! ### ASCII characters and their small letters -/

theorem isBlank_toLower (ascii : isAscii c = true) : isBlank c.toLower = isBlank c :=
  of_isAscii (p := fun c => isBlank c.toLower = isBlank c) ascii (by decide)

theorem isQuote_toLower (ascii : isAscii c = true) : isQuote c.toLower = isQuote c :=
  of_isAscii (p := fun c => isQuote c.toLower = isQuote c) ascii (by decide)

theorem startsName_toLower (ascii : isAscii c = true) : startsName c.toLower = startsName c :=
  of_isAscii (p := fun c => startsName c.toLower = startsName c) ascii (by decide)

theorem continuesName_toLower (ascii : isAscii c = true) :
    continuesName c.toLower = continuesName c :=
  of_isAscii (p := fun c => continuesName c.toLower = continuesName c) ascii (by decide)

theorem letter_toLower (ascii : isAscii c = true) : letter c.toLower = letter c :=
  of_isAscii (p := fun c => letter c.toLower = letter c) ascii (by decide)

theorem toUpper_toLower (ascii : isAscii c = true) : c.toLower.toUpper = c.toUpper :=
  of_isAscii (p := fun c => c.toLower.toUpper = c.toUpper) ascii (by decide)

/-! ### Condensed texts -/

/-- The second text is the first in small letters, with a space for each run of blanks and nothing for the
blanks at the end. -/
inductive Condenses : List Char → List Char → Prop where
  | blank {cs : List Char} (blank : cs.all isBlank = true) : Condenses cs []
  | letter {c : Char} {cs ds : List Char} (ascii : isAscii c = true) (visible : isBlank c = false)
      (rest : Condenses cs ds) : Condenses (c :: cs) (c.toLower :: ds)
  | gap {c : Char} {cs ds : List Char} (blank : isBlank c = true)
      (rest : Condenses (trimStart cs) ds) : Condenses (c :: cs) (' ' :: ds)

theorem isBlank_space : isBlank ' ' = true := by decide

/-- The words of an ASCII text with single spaces, in small letters, condense the text. -/
theorem condenses_spaced (ascii : cs.all isAscii = true) :
    Condenses (trimStart cs) ((spaced cs).map Char.toLower) := by
  induction cs with
  | nil => exact .blank rfl
  | cons c cs ih =>
    rw [List.all_cons, Bool.and_eq_true] at ascii
    have onward := ih ascii.2
    cases blank : isBlank c with
    | true => rwa [spaced_blank_cons blank, trimStart, List.dropWhile_cons_of_pos blank]
    | false =>
      rw [trimStart, List.dropWhile_cons_of_neg (by rw [blank]; exact Bool.false_ne_true)]
      cases cs with
      | nil =>
        rw [spaced_singleton blank]
        exact .letter ascii.1 blank (.blank rfl)
      | cons d cs =>
        cases blank' : isBlank d with
        | false =>
          rw [trimStart, List.dropWhile_cons_of_neg (by rw [blank']; exact Bool.false_ne_true)] at onward
          rw [spaced_cons_cons blank blank', List.map_cons]
          exact .letter ascii.1 blank onward
        | true =>
          by_cases nothing : cs.all isBlank = true
          · rw [spaced_cons_of_blank blank blank' nothing]
            refine .letter ascii.1 blank (.blank ?_)
            rw [List.all_cons, blank', nothing]
            rfl
          · rw [trimStart, List.dropWhile_cons_of_pos blank'] at onward
            rw [spaced_cons_blank_cons blank blank' nothing, List.map_cons, List.map_cons]
            exact .letter ascii.1 blank (.gap blank' onward)

/-- The normal form of an ASCII text condenses it. -/
theorem condenses_normalChars (ascii : cs.all isAscii = true) :
    Condenses (trimStart cs) (normalChars cs) := by
  rw [normalChars, ← spaced, lower_of_ascii (all_isAscii_spaced ascii)]
  exact condenses_spaced ascii

/-- Without blanks at its start, a text is condensed to one without. -/
theorem Condenses.trimStart_eq (condensed : Condenses (trimStart cs) ds) : trimStart ds = ds := by
  have first := List.head?_dropWhile_not isBlank cs
  rw [← trimStart] at first
  generalize trimStart cs = start at condensed first
  cases condensed with
  | blank => rfl
  | letter ascii visible _ =>
    refine List.dropWhile_cons_of_neg ?_
    rw [isBlank_toLower ascii, visible]
    exact Bool.false_ne_true
  | gap blank => simp [blank] at first

/-! ### Readers -/

section Rel

variable {α β α' β' : Type} {R : α → β → Prop} {S : α' → β' → Prop} {x : Option α} {y : Option β}

theorem rel_bind {f : α → Option α'} {g : β → Option β'} (related : Option.Rel R x y)
    (each : ∀ a b, R a b → Option.Rel S (f a) (g b)) : Option.Rel S (x.bind f) (y.bind g) := by
  cases related with
  | none => exact .none
  | some pair => exact each _ _ pair

theorem rel_map {f : α → α'} {g : β → β'} (related : Option.Rel R x y)
    (each : ∀ a b, R a b → S (f a) (g b)) : Option.Rel S (x.map f) (y.map g) := by
  cases related with
  | none => exact .none
  | some pair => exact .some (each _ _ pair)

theorem rel_orElse {x' : Option α} {y' : Option β} (first : Option.Rel R x y)
    (second : Option.Rel R x' y') : Option.Rel R (x <|> x') (y <|> y') := by
  cases first with
  | none => exact second
  | some pair => exact .some pair

theorem rel_findSome? {γ : Type} {f : γ → Option α} {g : γ → Option β} (l : List γ)
    (each : ∀ a ∈ l, Option.Rel R (f a) (g a)) :
    Option.Rel R (l.findSome? f) (l.findSome? g) := by
  induction l with
  | nil => exact .none
  | cons a l ih =>
    have here := each a List.mem_cons_self
    rw [List.findSome?_cons, List.findSome?_cons]
    cases hf : f a with
    | none =>
      cases hg : g a with
      | none => exact ih fun b member => each b (List.mem_cons_of_mem _ member)
      | some => rw [hf, hg] at here; cases here
    | some =>
      cases hg : g a with
      | none => rw [hf, hg] at here; cases here
      | some => rwa [hf, hg] at here

end Rel

/-- The same is read, but for its case, and what follows is condensed. -/
structure SameRead (x y : List Char × List Char) : Prop where
  ascii : x.1.all isAscii = true
  small : y.1 = x.1.map Char.toLower
  rest : Condenses x.2 y.2

namespace Condenses

theorem word? (condensed : Condenses cs ds) (solid : isSolid w = true) :
    Option.Rel SameRead (word? w cs) (word? w ds) := by
  induction w generalizing cs ds with
  | nil => exact .some ⟨rfl, rfl, condensed⟩
  | cons k ks ih =>
    have solid' : isSolid ks = true := by
      rw [isSolid, List.all_cons, Bool.and_eq_true] at solid
      exact solid.2
    cases condensed with
    | blank blank =>
      cases cs with
      | nil => exact .none
      | cons c cs =>
        rw [List.all_cons, Bool.and_eq_true] at blank
        rw [word?_blank_cons solid (List.cons_ne_nil k ks) blank.1]
        exact .none
    | @letter c cs ds ascii visible rest =>
      have same : sameLetter k c.toLower = sameLetter k c := by
        rw [Bool.eq_iff_iff, sameLetter_iff, sameLetter_iff, letter_toLower ascii]
      rw [Sql.word?, Sql.word?, same]
      split
      · refine rel_map (ih rest solid') fun x y read => ⟨?_, ?_, read.rest⟩
        · rw [List.all_cons, ascii, read.ascii]
          rfl
        · exact congrArg (c.toLower :: ·) read.small
      · exact .none
    | gap blank rest =>
      rw [word?_blank_cons solid (List.cons_ne_nil k ks) blank,
        word?_blank_cons solid (List.cons_ne_nil k ks) isBlank_space]
      exact .none

/-- What follows blanks is condensed. It is nothing where there are none, and nothing can be read there. -/
theorem blanks? (condensed : Condenses cs ds) :
    Condenses ((blanks? cs).getD []) ((blanks? ds).getD []) := by
  cases condensed with
  | blank blank =>
    cases cs with
    | nil => exact .blank rfl
    | cons c cs =>
      rw [List.all_cons, Bool.and_eq_true] at blank
      rw [Sql.blanks?, if_pos blank.1, Option.getD_some, trimStart_eq_nil_iff.2 blank.2]
      exact .blank rfl
  | letter ascii visible rest =>
    rw [Sql.blanks?, Sql.blanks?, isBlank_toLower ascii, visible]
    exact .blank rfl
  | gap blank rest =>
    rw [Sql.blanks?, Sql.blanks?, if_pos blank, if_pos isBlank_space, Option.getD_some,
      Option.getD_some, rest.trimStart_eq]
    exact rest

end Condenses

theorem getD_phrase?_cons (word : String) (words : List String) (cs : List Char) :
    (phrase? (word :: words) cs).getD [] = (word? word.toList cs).elim [] fun x =>
      (phrase? words ((blanks? x.2).getD [])).getD [] := by
  rw [phrase?]
  cases word? word.toList cs with
  | none => rfl
  | some x =>
    cases behind : blanks? x.2 with
    | none => simp [behind, getD_phrase?_nil]
    | some rest => simp [behind]

namespace Condenses

/-- What follows a phrase is condensed, and so is the nothing that follows one that is not there. -/
theorem phrase? {words : List String} (condensed : Condenses cs ds)
    (solid : words.all (isSolid ·.toList) = true) :
    Condenses ((phrase? words cs).getD []) ((phrase? words ds).getD []) := by
  induction words generalizing cs ds with
  | nil => exact condensed
  | cons word words ih =>
    rw [List.all_cons, Bool.and_eq_true] at solid
    have first := condensed.word? solid.1
    rw [getD_phrase?_cons, getD_phrase?_cons]
    generalize Sql.word? word.toList cs = x at first ⊢
    generalize Sql.word? word.toList ds = y at first ⊢
    cases first with
    | none => exact .blank rfl
    | some read => exact ih read.rest.blanks? solid.2

theorem dropQuote (condensed : Condenses cs ds) : Condenses (dropQuote cs) (dropQuote ds) := by
  cases condensed with
  | blank blank =>
    cases cs with
    | nil => exact .blank rfl
    | cons c cs =>
      have unquoted : isQuote c = false := isQuote_of_isBlank (List.all_eq_true.1 blank c (by simp))
      rw [Sql.dropQuote, unquoted]
      exact .blank blank
  | letter ascii visible rest =>
    rw [Sql.dropQuote, Sql.dropQuote, isQuote_toLower ascii]
    split
    · exact rest
    · exact .letter ascii visible rest
  | gap blank rest =>
    rw [Sql.dropQuote, Sql.dropQuote, isQuote_of_isBlank blank, isQuote_of_isBlank isBlank_space]
    exact .gap blank rest

/-- The characters that a name goes on with are the same, but for their case. -/
theorem span (condensed : Condenses cs ds) :
    SameRead (cs.takeWhile continuesName, cs.dropWhile continuesName)
      (ds.takeWhile continuesName, ds.dropWhile continuesName) := by
  induction condensed with
  | @blank cs blank =>
    cases cs with
    | nil => exact ⟨rfl, rfl, .blank rfl⟩
    | cons c cs =>
      have ends : continuesName c = false :=
        continuesName_of_isBlank (List.all_eq_true.1 blank c (by simp))
      rw [List.takeWhile_cons_of_neg (by simp [ends]), List.dropWhile_cons_of_neg (by simp [ends])]
      exact ⟨rfl, rfl, .blank blank⟩
  | @letter c cs ds ascii visible rest ih =>
    cases goesOn : continuesName c with
    | true =>
      have goesOn' : continuesName c.toLower = true := (continuesName_toLower ascii).trans goesOn
      rw [List.takeWhile_cons_of_pos goesOn, List.dropWhile_cons_of_pos goesOn,
        List.takeWhile_cons_of_pos goesOn', List.dropWhile_cons_of_pos goesOn']
      refine ⟨?_, ?_, ih.rest⟩
      · rw [List.all_cons, ascii, ih.ascii]
        rfl
      · rw [List.map_cons, ← ih.small]
    | false =>
      have ends : ¬ continuesName c.toLower = true := by
        rw [continuesName_toLower ascii, goesOn]
        exact Bool.false_ne_true
      have ends' : ¬ continuesName c = true := by simp [goesOn]
      rw [List.takeWhile_cons_of_neg ends, List.dropWhile_cons_of_neg ends,
        List.takeWhile_cons_of_neg ends', List.dropWhile_cons_of_neg ends']
      exact ⟨rfl, rfl, .letter ascii visible rest⟩
  | @gap c cs ds blank rest _ =>
    have ends : ¬ continuesName c = true := by simp [continuesName_of_isBlank blank]
    have ends' : ¬ continuesName ' ' = true := by simp [continuesName_of_isBlank isBlank_space]
    rw [List.takeWhile_cons_of_neg ends, List.dropWhile_cons_of_neg ends,
      List.takeWhile_cons_of_neg ends', List.dropWhile_cons_of_neg ends']
    exact ⟨rfl, rfl, .gap blank rest⟩

theorem name? (condensed : Condenses cs ds) : Option.Rel SameRead (name? cs) (name? ds) := by
  have unquoted := condensed.dropQuote
  rw [Sql.name?, Sql.name?]
  generalize Sql.dropQuote cs = cs at unquoted ⊢
  generalize Sql.dropQuote ds = ds at unquoted ⊢
  cases unquoted with
  | blank blank =>
    cases cs with
    | nil => exact .none
    | cons c cs =>
      have unnamed := startsName_of_isBlank (List.all_eq_true.1 blank c (by simp))
      simp only [unnamed]
      exact .none
  | letter ascii visible rest =>
    simp only [startsName_toLower ascii]
    split
    · refine .some ⟨?_, ?_, rest.span.rest.dropQuote⟩
      · rw [List.all_cons, ascii, rest.span.ascii]
        rfl
      · rw [List.map_cons, ← rest.span.small]
    · exact .none
  | gap blank rest =>
    simp only [startsName_of_isBlank blank, startsName_of_isBlank isBlank_space]
    exact .none

end Condenses

end SchemaHistory.Sql
