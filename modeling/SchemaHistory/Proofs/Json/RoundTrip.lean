import Mathlib.Data.List.Forall2
import SchemaHistory.Proofs.Json.Spelling

/-!
Values that are written and read back.

Both the compact and the indented text spell the value that they are written for, so that reading gives it
back: whatever characters its strings have, and however deep its arrays and objects are nested.
-/

namespace SchemaHistory.Json

mutual

/-- Whether a value can be spelled: its strings are texts, and its numbers are whole and not negative. -/
def legible : Json → Bool
  | null => true
  | bool _ => true
  | number n => n == .ofNat n.whole
  | string s => s.isSome
  | array items => legibleItems items
  | object members => legibleMembers members

/-- Whether all items can be spelled. -/
def legibleItems : List Json → Bool
  | [] => true
  | v :: vs => legible v && legibleItems vs

/-- Whether all members can be spelled. -/
def legibleMembers : List (Option String × Json) → Bool
  | [] => true
  | (name, v) :: members => name.isSome && legible v && legibleMembers members

end

/-- An array of values that can be spelled can be spelled. -/
theorem legible_array_map {α : Type} {f : α → Json} {l : List α} (each : ∀ a ∈ l, (f a).legible = true) :
    (array (l.map f)).legible = true := by
  rw [legible]
  induction l with
  | nil => rfl
  | cons a l ih =>
    rw [List.forall_mem_cons] at each
    rw [List.map_cons, legibleItems, each.1, ih each.2]
    rfl

/-- A text spells a member without blanks around it. -/
inductive SpellsMember : Option String × Json → List Char → Prop where
  | mk {name : String} {v : Json} {cs : List Char} (between : List Char)
      (blank : between.all isSpace = true) (value : Spells v cs) :
      SpellsMember (some name, v) (quoted (some name) ++ ':' :: (between ++ cs))

theorem spellsItems_commaSeparated {items : List Json} {texts : List (List Char)}
    (before after : List Char) (blank : before.all isSpace = true) (blank' : after.all isSpace = true)
    (each : List.Forall₂ Spells items texts) (nonempty : items ≠ []) :
    SpellsItems items (commaSeparated (texts.map (before ++ ·)) ++ after) := by
  induction each with
  | nil => exact absurd rfl nonempty
  | cons item others ih =>
    cases others with
    | nil => simpa [commaSeparated] using SpellsItems.last before after blank item blank'
    | cons =>
      have later := ih (List.cons_ne_nil _ _)
      simpa [commaSeparated] using SpellsItems.cons before [] _ blank item rfl later

theorem spellsMembers_commaSeparated {members : List (Option String × Json)}
    {texts : List (List Char)} (before after : List Char) (blank : before.all isSpace = true)
    (blank' : after.all isSpace = true) (each : List.Forall₂ SpellsMember members texts)
    (nonempty : members ≠ []) :
    SpellsMembers members (commaSeparated (texts.map (before ++ ·)) ++ after) := by
  induction each with
  | nil => exact absurd rfl nonempty
  | cons member others ih =>
    obtain ⟨between, spaced, value⟩ := member
    cases others with
    | nil =>
      simpa [commaSeparated] using SpellsMembers.last before between after blank spaced value blank'
    | cons =>
      have later := ih (List.cons_ne_nil _ _)
      simpa [commaSeparated] using SpellsMembers.cons before between [] _ blank spaced value rfl later

theorem spells_number {n : Numeral} (readable : (number n).legible = true) :
    Spells (number n) (numeralText n) := by
  have whole : n = .ofNat n.whole := by simpa [legible] using readable
  have digits : numeralText (.ofNat n.whole) = decimal n.whole := by
    simp [numeralText, Numeral.ofNat]
  rw [whole, digits]
  exact .nat n.whole

theorem spells_string {s : Option String} (readable : (string s).legible = true) :
    Spells (string s) (quoted s) := by
  obtain ⟨s, rfl⟩ := Option.isSome_iff_exists.1 readable
  exact .text s

mutual

/-- The compact text of a value spells it. -/
theorem spells_compact : ∀ v : Json, legible v = true → Spells v (compact v)
  | null, _ => .null
  | bool b, _ => .bool b
  | number _, readable => spells_number readable
  | string _, readable => spells_string readable
  | array [], _ => .emptyArray
  | array (v :: vs), readable => by
    have inside := spellsItems_commaSeparated [] [] rfl rfl
      (forall₂_compactItems (v :: vs) readable) (List.cons_ne_nil _ _)
    simp only [List.nil_append, List.map_id', List.append_nil] at inside
    exact .array inside
  | object [], _ => .emptyObject
  | object (m :: members), readable => by
    have inside := spellsMembers_commaSeparated [] [] rfl rfl
      (forall₂_compactMembers (m :: members) readable) (List.cons_ne_nil _ _)
    simp only [List.nil_append, List.map_id', List.append_nil] at inside
    exact .object inside

theorem forall₂_compactItems : ∀ items : List Json, legibleItems items = true →
    List.Forall₂ Spells items (compactItems items)
  | [], _ => .nil
  | v :: vs, readable => by
    rw [legibleItems, Bool.and_eq_true] at readable
    exact .cons (spells_compact v readable.1) (forall₂_compactItems vs readable.2)

theorem forall₂_compactMembers : ∀ members : List (Option String × Json),
    legibleMembers members = true → List.Forall₂ SpellsMember members (compactMembers members)
  | [], _ => .nil
  | (none, v) :: members, readable => by simp [legibleMembers] at readable
  | (some name, v) :: members, readable => by
    rw [legibleMembers, Bool.and_eq_true, Bool.and_eq_true] at readable
    exact .cons (.mk [] rfl (spells_compact v readable.1.2))
      (forall₂_compactMembers members readable.2)

end

theorem all_isSpace_newLine (level : Nat) : (newLine level).all isSpace = true := by
  simp [newLine, isSpace]

mutual

/-- The indented text of a value spells it, at whatever level it starts. -/
theorem spells_indented : ∀ (level : Nat) (v : Json), legible v = true → Spells v (indented level v)
  | _, null, _ => .null
  | _, bool b, _ => .bool b
  | _, number _, readable => spells_number readable
  | _, string _, readable => spells_string readable
  | _, array [], _ => .emptyArray
  | level, array (v :: vs), readable => by
    have inside := spellsItems_commaSeparated _ _ (all_isSpace_newLine (level + 1))
      (all_isSpace_newLine level) (forall₂_indentedItems (level + 1) (v :: vs) readable)
        (List.cons_ne_nil _ _)
    exact .array inside
  | _, object [], _ => .emptyObject
  | level, object (m :: members), readable => by
    have inside := spellsMembers_commaSeparated _ _ (all_isSpace_newLine (level + 1))
      (all_isSpace_newLine level) (forall₂_indentedMembers (level + 1) (m :: members) readable)
      (List.cons_ne_nil _ _)
    exact .object inside

theorem forall₂_indentedItems : ∀ (level : Nat) (items : List Json), legibleItems items = true →
    List.Forall₂ Spells items (indentedItems level items)
  | _, [], _ => .nil
  | level, v :: vs, readable => by
    rw [legibleItems, Bool.and_eq_true] at readable
    exact .cons (spells_indented level v readable.1) (forall₂_indentedItems level vs readable.2)

theorem forall₂_indentedMembers : ∀ (level : Nat) (members : List (Option String × Json)),
    legibleMembers members = true → List.Forall₂ SpellsMember members (indentedMembers level members)
  | _, [], _ => .nil
  | _, (none, v) :: members, readable => by simp [legibleMembers] at readable
  | level, (some name, v) :: members, readable => by
    rw [legibleMembers, Bool.and_eq_true, Bool.and_eq_true] at readable
    exact .cons (.mk [' '] rfl (spells_indented level v readable.1.2))
      (forall₂_indentedMembers level members readable.2)

end

/-- A value is read from its compact text. -/
theorem read?_compactText {v : Json} (readable : v.legible = true) :
    read? v.compactText.toList = some v := by
  rw [compactText, String.toList_ofList]
  exact (spells_compact v readable).read?_eq

/-- A value is read from its indented text. -/
theorem read?_indentedText {v : Json} (readable : v.legible = true) :
    read? v.indentedText.toList = some v := by
  rw [indentedText, String.toList_ofList]
  exact (spells_indented 0 v readable).read?_eq

end SchemaHistory.Json
