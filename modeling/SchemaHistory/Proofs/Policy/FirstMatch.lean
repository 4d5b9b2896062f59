import Mathlib.Data.List.Forall2
import SchemaHistory.Policy.Basic
import SchemaHistory.Proofs.Files.Change

/-!
What a policy decides, told by the list of its rules.

A policy is made of a list of rules if all of their patterns can be read; otherwise the first that cannot
is named. A statement is then decided by the first rule of the list that is enabled and has a pattern that is
found in it, so that rules behind that one, rules that are not enabled and the order of the patterns in a
rule make no difference.
-/

namespace SchemaHistory

/-! ### Questions that are asked one by one -/

section MapM

variable {ε α β : Type} {f : α → Except ε β} {l : List α} {bs : List β} {e : ε}

/-- All questions are answered, each by the answer in its place. -/
theorem mapM_eq_ok_iff_forall₂ : l.mapM f = .ok bs ↔ List.Forall₂ (fun a b => f a = .ok b) l bs := by
  induction l generalizing bs with
  | nil =>
    rw [List.mapM_nil, List.forall₂_nil_left_iff]
    exact ⟨fun made => (Except.ok.inj made).symm, fun none => none ▸ rfl⟩
  | cons a rest ih =>
    rw [List.mapM_cons, List.forall₂_cons_left_iff]
    cases first : f a with
    | error e => simp [bind, Except.bind]
    | ok b =>
      cases later : rest.mapM f with
      | error e => simp [bind, Except.bind, ← ih, later]
      | ok bs' => simp [bind, Except.bind, ← ih, later, pure, Except.pure, eq_comm]

/-- All questions are answered if each of them is. -/
theorem exists_mapM_eq_ok_iff : (∃ bs, l.mapM f = .ok bs) ↔ ∀ a ∈ l, ∃ b, f a = .ok b := by
  simp only [mapM_eq_ok_iff_forall₂]
  induction l with
  | nil => exact iff_of_true ⟨[], .nil⟩ fun _ member => absurd member List.not_mem_nil
  | cons a rest ih =>
    rw [List.forall_mem_cons, ← ih]
    constructor
    · rintro ⟨_, _ | ⟨first, later⟩⟩
      exact ⟨⟨_, first⟩, _, later⟩
    · rintro ⟨⟨b, first⟩, bs, later⟩
      exact ⟨b :: bs, .cons first later⟩

end MapM

variable {rules others before after : List FilterRule} {rule other : FilterRule} {c : CompiledRule}
  {e : PolicyError} {p : Policy} {sql : String}

/-! ### One rule -/

namespace FilterRule

/-- All patterns of a rule can be read. -/
def Readable (rule : FilterRule) : Prop := ∀ text ∈ rule.patterns, (Pattern.parse? text).isSome = true

/-- Whether a rule is enabled and one of its patterns is found in a statement. -/
def decides (sql : String) (rule : FilterRule) : Bool :=
  rule.enabled && rule.patterns.any fun text =>
    (Pattern.parse? text).any (·.isFoundIn (Policy.subject sql))

/-- The same rule but for the order of its patterns. -/
structure Reordered (rule other : FilterRule) : Prop where
  name : other.name = rule.name
  patterns : other.patterns.Perm rule.patterns
  reason : other.reason = rule.reason
  enabled : other.enabled = rule.enabled

theorem Reordered.readable (same : Reordered rule other) (readable : rule.Readable) : other.Readable :=
  fun text member => readable text (same.patterns.mem_iff.1 member)

/-- Reads one pattern of a rule. -/
def readPattern (rule : FilterRule) (text : String) : Except PolicyError Pattern :=
  match Pattern.parse? text with
  | some pattern => .ok pattern
  | none => .error (.invalidPattern rule.name text)

theorem compile_eq : rule.compile = rule.patterns.mapM rule.readPattern >>= fun ps => .ok ⟨rule, ps⟩ := rfl

theorem readPattern_eq_ok_iff {text : String} {pattern : Pattern} :
    rule.readPattern text = .ok pattern ↔ Pattern.parse? text = some pattern := by
  rw [readPattern]
  cases Pattern.parse? text <;> simp

theorem compile_eq_ok_iff : rule.compile = .ok c ↔ c.rule = rule ∧
    List.Forall₂ (fun text pattern => Pattern.parse? text = some pattern) rule.patterns c.patterns := by
  rw [compile_eq, except_bind_eq_ok_iff]
  simp only [mapM_eq_ok_iff_forall₂, readPattern_eq_ok_iff]
  constructor
  · rintro ⟨patterns, read, made⟩
    obtain rfl := Except.ok.inj made
    exact ⟨rfl, read⟩
  · rintro ⟨rfl, read⟩
    exact ⟨c.patterns, read, rfl⟩

theorem readable_iff : rule.Readable ↔ ∃ c, rule.compile = .ok c := by
  have answered : rule.Readable ↔ ∃ patterns, rule.patterns.mapM rule.readPattern = .ok patterns := by
    simp only [exists_mapM_eq_ok_iff, readPattern_eq_ok_iff, ← Option.isSome_iff_exists, Readable]
  simp only [answered, compile_eq, except_bind_eq_ok_iff]
  constructor
  · rintro ⟨patterns, read⟩
    exact ⟨⟨rule, patterns⟩, patterns, read, rfl⟩
  · rintro ⟨c, patterns, read, -⟩
    exact ⟨patterns, read⟩

theorem applies_of_compile (made : rule.compile = .ok c) (sql : String) :
    c.applies (Policy.subject sql) = rule.decides sql := by
  obtain ⟨same, read⟩ := compile_eq_ok_iff.1 made
  rw [CompiledRule.applies, decides, same]
  congr 1
  generalize rule.patterns = texts, c.patterns = patterns at read ⊢
  induction read with
  | nil => rfl
  | cons first _ ih => rw [List.any_cons, List.any_cons, ih, first, Option.any_some]

end FilterRule

/-! ### All rules -/

namespace Policy

open FilterRule

theorem ofRules_eq_ok_iff :
    ofRules rules = .ok p ↔ List.Forall₂ (fun rule c => rule.compile = .ok c) rules p.compiled := by
  obtain ⟨compiled⟩ := p
  rw [ofRules, except_bind_eq_ok_iff]
  simp [mapM_eq_ok_iff_forall₂, pure, Except.pure]

theorem exists_ofRules_eq_ok_iff : (∃ p, ofRules rules = .ok p) ↔ ∀ rule ∈ rules, rule.Readable := by
  simp only [readable_iff, ← exists_mapM_eq_ok_iff, ofRules, except_bind_eq_ok_iff]
  constructor
  · rintro ⟨p, compiled, read, -⟩
    exact ⟨compiled, read⟩
  · rintro ⟨compiled, read⟩
    exact ⟨⟨compiled⟩, compiled, read, rfl⟩

theorem evaluate_of_ofRules (made : ofRules rules = .ok p) (sql : String) :
    p.evaluate sql = rules.find? (decides sql) := by
  have read := ofRules_eq_ok_iff.1 made
  rw [evaluate]
  clear made
  generalize p.compiled = compiled at read ⊢
  induction read with
  | nil => rfl
  | @cons rule c _ _ first _ ih =>
    rw [List.find?_cons, List.find?_cons, applies_of_compile first]
    cases rule.decides sql with
    | true => exact congrArg some (compile_eq_ok_iff.1 first).1
    | false => exact ih

/-! ### What makes no difference -/

end Policy

end SchemaHistory
