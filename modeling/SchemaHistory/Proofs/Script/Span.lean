import SchemaHistory.Proofs.Script.Comment

/-!
Where the block comments of a text are.

A text comes apart into code and block comments in one way only: no part of the code has an opening mark in
it, no comment has a closing mark before its end, and a comment that is never closed ends the text. What
is left without the comments is the code, and a scanner that reads the text once, character by character,
leaves the same.
-/

namespace SchemaHistory.Sql

variable {before body cs : List Char}

/-! ### Scanning -/

/-- What a scanner is in the middle of. -/
inductive Within where | code | comment
  deriving Repr, DecidableEq

/-- What a scanner copies. It goes into a comment at an opening mark, and out of it at a closing mark. -/
def scan : Within → List Char → List Char
  | _, [] => []
  | .code, '/' :: '*' :: cs => scan .comment cs
  | .code, c :: cs => c :: scan .code cs
  | .comment, '*' :: '/' :: cs => scan .code cs
  | .comment, _ :: cs => scan .comment cs

/-- A character that starts no opening mark is copied. -/
theorem scan_code_cons {c : Char} (noMark : ¬ ['/', '*'] <+: c :: cs) :
    scan .code (c :: cs) = c :: scan .code cs := by
  rw [scan]
  rintro rest rfl rfl
  exact noMark (List.prefix_append ['/', '*'] rest)

/-- A character that starts no closing mark is dropped in a comment. -/
theorem scan_comment_cons {c : Char} (noMark : ¬ ['*', '/'] <+: c :: cs) :
    scan .comment (c :: cs) = scan .comment cs := by
  rw [scan]
  rintro rest rfl rfl
  exact noMark (List.prefix_append ['*', '/'] rest)

/-- Code without an opening mark is copied. -/
theorem scan_code (plain : ¬ ['/', '*'] <:+: before) : scan .code before = before := by
  induction before with
  | nil => rfl
  | cons c before ih =>
    rw [List.infix_cons_iff, not_or] at plain
    rw [scan_code_cons plain.1, ih plain.2]

/-- Of a comment that is not closed nothing is copied. -/
theorem scan_comment (inside : ¬ ['*', '/'] <:+: body) : scan .comment body = [] := by
  induction body with
  | nil => rfl
  | cons c body ih =>
    rw [List.infix_cons_iff, not_or] at inside
    rw [scan_comment_cons inside.1, ih inside.2]

/-- Up to the first opening mark all is copied. -/
theorem scan_code_append (plain : ¬ ['/', '*'] <:+: before) (cs : List Char) :
    scan .code (before ++ '/' :: '*' :: cs) = before ++ scan .comment cs := by
  induction before with
  | nil => rfl
  | cons c before ih =>
    rw [List.infix_cons_iff, not_or] at plain
    rw [List.cons_append, scan_code_cons (not_prefix_append_mark (by decide) plain.1), ih plain.2,
      List.cons_append]

/-- Up to the first closing mark nothing is copied. -/
theorem scan_comment_append (inside : ¬ ['*', '/'] <:+: body) (cs : List Char) :
    scan .comment (body ++ '*' :: '/' :: cs) = scan .code cs := by
  induction body with
  | nil => rfl
  | cons c body ih =>
    rw [List.infix_cons_iff, not_or] at inside
    rw [List.cons_append, scan_comment_cons (not_prefix_append_mark (by decide) inside.1),
      ih inside.2]

/-! ### Parting a text -/

/-- Code, with block comments in between. -/
inductive Parted where
  | code (before : List Char)
  | unclosed (before body : List Char)
  | comment (before body : List Char) (rest : Parted)
  deriving Repr, DecidableEq

namespace Parted

/-- The whole text. -/
def text : Parted → List Char
  | .code before => before
  | .unclosed before body => before ++ '/' :: '*' :: body
  | .comment before body rest => before ++ '/' :: '*' :: (body ++ '*' :: '/' :: rest.text)

/-- The code alone. -/
def outside : Parted → List Char
  | .code before => before
  | .unclosed before _ => before
  | .comment before _ rest => before ++ rest.outside

/-- Each comment starts at the first opening mark and ends at the first closing mark behind it. -/
def Proper : Parted → Prop
  | .code before => ¬ ['/', '*'] <:+: before
  | .unclosed before body => ¬ ['/', '*'] <:+: before ∧ ¬ ['*', '/'] <:+: body
  | .comment before body rest => ¬ ['/', '*'] <:+: before ∧ ¬ ['*', '/'] <:+: body ∧ rest.Proper

variable {p q : Parted}

/-- What is left of a text without its comments is the code. -/
theorem withoutBlocks_text (proper : p.Proper) : withoutBlocks p.text = p.outside := by
  induction p with
  | code before => exact withoutBlocks_of_absent proper
  | unclosed before body =>
    rw [text, withoutBlocks_of_cutAt_some (cutAt_append_mark (by decide) proper.1),
      (cutAt_eq_none_iff (List.cons_ne_nil _ _)).2 proper.2]
    exact List.append_nil before
  | comment before body rest ih =>
    rw [text, withoutBlocks_comment proper.1 proper.2.1, ih proper.2.2, outside]

/-- What a scanner copies is the code. -/
theorem scan_text (proper : p.Proper) : scan .code p.text = p.outside := by
  induction p with
  | code before => exact scan_code proper
  | unclosed before body =>
    rw [text, scan_code_append proper.1, scan_comment proper.2, List.append_nil, outside]
  | comment before body rest ih =>
    rw [text, scan_code_append proper.1, scan_comment_append proper.2.1, ih proper.2.2, outside]

/-- Every text can be parted. -/
theorem exists_proper (cs : List Char) : ∃ p : Parted, p.Proper ∧ p.text = cs := by
  fun_induction withoutBlocks cs with
  | case1 cs plain => exact ⟨code cs, (cutAt_eq_none_iff (List.cons_ne_nil _ _)).1 plain, rfl⟩
  | case2 cs before body opened ih =>
    have first := not_infix_of_cutAt (List.cons_ne_nil _ _) opened
    rw [← append_of_cutAt opened]
    cases closed : cutAt ['*', '/'] body with
    | none =>
      exact ⟨unclosed before body, ⟨first, (cutAt_eq_none_iff (List.cons_ne_nil _ _)).1 closed⟩, rfl⟩
    | some cut =>
      obtain ⟨inner, behind⟩ := cut
      obtain ⟨rest, proper, rfl⟩ := ih inner behind closed
      refine ⟨comment before inner rest,
        ⟨first, not_infix_of_cutAt (List.cons_ne_nil _ _) closed, proper⟩, ?_⟩
      rw [text, ← append_of_cutAt closed]
      rfl

/-- What stands before the first comment, and what stands behind its opening mark. -/
def opening? : Parted → Option (List Char × List Char)
  | .code _ => none
  | .unclosed before body => some (before, body)
  | .comment before body rest => some (before, body ++ '*' :: '/' :: rest.text)

theorem cutAt_text (proper : p.Proper) : cutAt ['/', '*'] p.text = p.opening? := by
  cases p with
  | code before => exact (cutAt_eq_none_iff (List.cons_ne_nil _ _)).2 proper
  | unclosed before body => exact cutAt_append_mark (by decide) proper.1
  | comment before body rest => exact cutAt_append_mark (by decide) proper.1

/-- A text can be parted in one way only. -/
theorem eq_of_text (proper : p.Proper) (proper' : q.Proper) (same : p.text = q.text) : p = q := by
  induction p generalizing q with
  | code before =>
    have opening := cutAt_text proper'
    rw [← same, cutAt_text proper] at opening
    cases q with
    | code before' => exact congrArg code same
    | unclosed | comment => simp [opening?] at opening
  | unclosed before body =>
    have opening := cutAt_text proper'
    rw [← same, cutAt_text proper] at opening
    cases q with
    | code => simp [opening?] at opening
    | unclosed before' body' =>
      obtain ⟨rfl, rfl⟩ := Prod.mk.inj (Option.some.inj opening)
      rfl
    | comment before' body' rest' =>
      obtain ⟨-, rfl⟩ := Prod.mk.inj (Option.some.inj opening)
      exact absurd ⟨body', rest'.text, by simp⟩ proper.2
  | comment before body rest ih =>
    have opening := cutAt_text proper'
    rw [← same, cutAt_text proper] at opening
    cases q with
    | code => simp [opening?] at opening
    | unclosed before' body' =>
      obtain ⟨-, rfl⟩ := Prod.mk.inj (Option.some.inj opening)
      exact absurd ⟨body, rest.text, by simp⟩ proper'.2
    | comment before' body' rest' =>
      obtain ⟨rfl, behind⟩ := Prod.mk.inj (Option.some.inj opening)
      -- both are cut at the same closing mark
      have closing := congrArg (cutAt ['*', '/']) behind
      rw [cutAt_append_mark (by decide) proper.2.1, cutAt_append_mark (by decide) proper'.2.1] at closing
      obtain ⟨rfl, later⟩ := Prod.mk.inj (Option.some.inj closing)
      rw [ih proper.2.2 proper'.2.2 later]

end Parted

/-- Taking the block comments out of a text leaves what a scanner copies that reads it once. The text can be
parted into code and comments in exactly one way, and what is left is the code. -/
theorem withoutBlocks_exact (cs : List Char) :
    withoutBlocks cs = scan .code cs ∧
      (∃! p : Parted, p.Proper ∧ p.text = cs) ∧
      ∃ p : Parted, p.Proper ∧ p.text = cs ∧ withoutBlocks cs = p.outside := by
  obtain ⟨p, proper, rfl⟩ := Parted.exists_proper cs
  have left : withoutBlocks p.text = p.outside := Parted.withoutBlocks_text proper
  have copied : scan .code p.text = p.outside := Parted.scan_text proper
  have only : ∀ q : Parted, q.Proper ∧ q.text = p.text → q = p := fun q ⟨proper', same⟩ =>
    Parted.eq_of_text proper' proper same
  exact ⟨left.trans copied.symm, ⟨p, ⟨proper, rfl⟩, only⟩, p, proper, rfl, left⟩

/-- Marks that share a character: the star of `/*/` does not close what it opens. -/
example : (["/*/ a */ b", "a //* b **/ c", "/**/*/ d", "a /* b /* c */ d */"].map fun sql =>
    String.ofList (withoutBlocks sql.toList)) = [" b", "a / c", "*/ d", "a  d */"] := by
  decide +kernel

end SchemaHistory.Sql
