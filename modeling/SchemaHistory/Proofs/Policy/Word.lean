import Mathlib.Data.List.Permutation
import SchemaHistory.Proofs.Pattern.Literal
import SchemaHistory.Proofs.Policy.FirstMatch
import SchemaHistory.Proofs.Text.Trim

/-!
Rules that are written for a word.

The pattern of such a rule is the word itself. Statements are looked at in capitals, while the letters of the
pattern match in their own cases only, so that the rule fires on the statements with the word in them if no
letter of the word is another one in capitals. A word with such a letter is not even found in itself.
-/

namespace SchemaHistory

open Pattern FilterRule

variable {rule : FilterRule} {word : String} {c : Char} {p : Policy}

/-- Whether a character can stand in a word: it structures no pattern, and it is no blank. -/
def isPlain (c : Char) : Bool := !structural.contains c && !isBlank c

theorem isPlain_iff : isPlain c = true ↔ c ∉ structural ∧ isBlank c = false := by
  rw [isPlain, Bool.and_eq_true, Bool.not_eq_true', Bool.not_eq_true', ← Bool.not_eq_true,
    List.contains_iff_mem]

namespace Policy

/-- A policy with one rule for a word is made unless the word is too large. -/
theorem exists_ofRules_single_iff (single : rule.patterns = [word])
    (plain : ∀ c ∈ word.toList, isPlain c = true) :
    (∃ p, ofRules [rule] = .ok p) ↔ (literal word.toList).size ≤ sizeLimit := by
  rw [exists_ofRules_eq_ok_iff, List.forall_mem_singleton, Readable, single, List.forall_mem_singleton,
    parse?_of_plain fun c member => (isPlain_iff.1 (plain c member)).1]
  split <;> simp [*]

/-- A rule for a word fires on the statements that have the same letters in them, in capitals. -/
theorem evaluate_single_iff (single : rule.patterns = [word]) (enabled : rule.enabled = true)
    (plain : ∀ c ∈ word.toList, isPlain c = true) (made : ofRules [rule] = .ok p) (sql : String) :
    p.evaluate sql = some rule ↔ ∃ u, u <:+: subject sql ∧ SameLetters word.toList u := by
  have small := (exists_ofRules_single_iff single plain).1 ⟨p, made⟩
  have read : Pattern.parse? word = some (literal word.toList) := by
    rw [parse?_of_plain fun c member => (isPlain_iff.1 (plain c member)).1, if_pos small]
  have decided : rule.decides sql = (literal word.toList).isFoundIn (subject sql) := by
    rw [decides, enabled, single, List.any_cons, read]
    simp
  rw [evaluate_of_ofRules made, ← isFoundIn_literal_iff, ← decided]
  cases fires : rule.decides sql <;> simp [fires]

/-- A rule for a word with a letter that is another one in capitals does not fire on the word. -/
theorem evaluate_word_ne (single : rule.patterns = [word]) (enabled : rule.enabled = true)
    (plain : ∀ c ∈ word.toList, isPlain c = true) (made : ofRules [rule] = .ok p) (member : c ∈ word.toList)
    (altered : c.toNat ∈ changed) : p.evaluate word ≠ some rule := by
  intro fires
  obtain ⟨u, inside, same⟩ := (evaluate_single_iff single enabled plain made word).1 fires
  have within : upper (trim word.toList) <:+: upper word.toList := infix_upper <| trim_infix _
  exact not_sameLetters_of_infix_upper member altered (inside.trans within) same

/-- A rule for a word fires on all statements that have the word in them if and only if no letter of the
word is another one in capitals. There is a policy with this rule if the word takes no more than half of
what a pattern may take, and only if it takes no more than that. -/
theorem evaluate_word_iff (single : rule.patterns = [word]) (enabled : rule.enabled = true)
    (nonempty : word.toList ≠ []) (plain : ∀ c ∈ word.toList, isPlain c = true) :
    (2 * (word.toList.map fun c => setSize (letterSet anyCase c)).sum ≤ sizeLimit →
      ∃ p, ofRules [rule] = .ok p) ∧
    ((∃ p, ofRules [rule] = .ok p) →
      (word.toList.map fun c => setSize (letterSet anyCase c)).sum ≤ sizeLimit) ∧
    ∀ p, ofRules [rule] = .ok p →
      ((∀ sql : String, word.toList <:+: sql.toList → p.evaluate sql = some rule) ↔
        ∀ c ∈ word.toList, c.toNat ∉ changed) := by
  have size := size_literal nonempty
  have compiles := exists_ofRules_single_iff single plain
  rw [size] at compiles
  refine ⟨fun small => compiles.2 (by omega), compiles.1, fun p made => ⟨?_, ?_⟩⟩
  · intro fires c member altered
    exact evaluate_word_ne single enabled plain made member altered (fires word List.infix_rfl)
  · intro kept sql inside
    rw [evaluate_single_iff single enabled plain made, subject]
    have shown := infix_trim (fun c member => (isPlain_iff.1 (plain c member)).2) inside
    exact ⟨_, infix_upper shown, sameLetters_upper kept⟩

/-- A rule for a word with a breathing and a final sigma. -/
theorem evaluate_word_iff_greek : ∃ p, ofRules [⟨"as", ["ὡς"], "r", true⟩] = .ok p ∧
    ∀ sql : String, "ὡς".toList <:+: sql.toList → p.evaluate sql = some ⟨"as", ["ὡς"], "r", true⟩ := by
  have single : (⟨"as", ["ὡς"], "r", true⟩ : FilterRule).patterns = ["ὡς"] := rfl
  have plain : ∀ c ∈ "ὡς".toList, isPlain c = true := List.all_eq_true.1 (by decide +kernel)
  have kept : ∀ c ∈ "ὡς".toList, !changed.contains c.toNat := List.all_eq_true.1 (by decide +kernel)
  obtain ⟨compiles, -, fires⟩ := evaluate_word_iff single rfl (by decide) plain
  obtain ⟨p, made⟩ := compiles (by cbv)
  exact ⟨p, made, (fires p made).2 fun c member => by simpa using kept c member⟩

/-- A rule for a word with a sharp s does not fire on the word that it is written for. -/
theorem not_forall_word_found : ¬ ∀ (rule : FilterRule) (word sql : String) (p : Policy),
    rule.patterns = [word] → rule.enabled = true → word.toList ≠ [] → (∀ c ∈ word.toList, isPlain c = true) →
    ofRules [rule] = .ok p → word.toList <:+: sql.toList → p.evaluate sql = some rule := by
  intro everywhere
  have single : (⟨"size", ["maß"], "r", true⟩ : FilterRule).patterns = ["maß"] := rfl
  have nonempty : "maß".toList ≠ [] := by decide
  have plain : ∀ c ∈ "maß".toList, isPlain c = true := List.all_eq_true.1 (by decide +kernel)
  have member : 'ß' ∈ "maß".toList := by decide
  obtain ⟨p, made⟩ := (exists_ofRules_single_iff single plain).2 (by rw [size_literal nonempty]; cbv)
  exact evaluate_word_ne single rfl plain made member (by decide)
    (everywhere _ "maß" "maß" p single rfl nonempty plain made List.infix_rfl)

end Policy

end SchemaHistory
