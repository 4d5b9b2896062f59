import SchemaHistory.Proofs.Script.Code
import SchemaHistory.Proofs.Script.Span

/-!
Nothing outside of comments is lost, and nothing is there twice.

A scanner that reads a script without its block comments once, and copies each line up to its first `--`,
leaves the code. All its characters but blanks and terminators are in the statements, in the same order,
and two of them are in one statement if and only if there is no terminator between them.
-/

namespace SchemaHistory.Sql

variable {c d : Char} {cs line u v w : List Char}

/-! ### Scanning lines -/

/-- What a scanner copies. It goes into a comment at `--`, and out of it at the end of the line. -/
def copyCode : Within → List Char → List Char
  | _, [] => []
  | .code, '-' :: '-' :: cs => copyCode .comment cs
  | .code, c :: cs => c :: copyCode .code cs
  | .comment, '\n' :: cs => '\n' :: copyCode .code cs
  | .comment, _ :: cs => copyCode .comment cs

theorem copyCode_code_cons (noMark : ¬ ['-', '-'] <+: c :: cs) :
    copyCode .code (c :: cs) = c :: copyCode .code cs := by
  rw [copyCode]
  rintro rest rfl rfl
  exact noMark (List.prefix_append ['-', '-'] rest)

theorem copyCode_break_cons (within : Within) (cs : List Char) :
    copyCode within ('\n' :: cs) = '\n' :: copyCode .code cs := by
  cases within with
  | code => exact copyCode_code_cons fun starts => absurd (List.cons_prefix_cons.1 starts).1 (by decide)
  | comment => rw [copyCode]

/-- A comment goes on to the end of its line. -/
theorem copyCode_comment_append (oneLine : '\n' ∉ line) (ends : ∀ c ∈ cs.head?, c = '\n') :
    copyCode .comment (line ++ cs) = copyCode .code cs := by
  induction line with
  | nil =>
    cases cs with
    | nil => rfl
    | cons c rest =>
      obtain rfl := ends c rfl
      rw [List.nil_append, copyCode_break_cons, copyCode_break_cons]
  | cons c rest ih =>
    rw [List.mem_cons, not_or] at oneLine
    rw [List.cons_append, copyCode, ih oneLine.2]
    exact Ne.symm oneLine.1

/-- Of each line the code is copied. -/
theorem copyCode_append (oneLine : '\n' ∉ line) (ends : ∀ c ∈ cs.head?, c = '\n') :
    copyCode .code (line ++ cs) = codeOfLine line ++ copyCode .code cs := by
  induction line with
  | nil => rfl
  | cons c rest ih =>
    rw [List.mem_cons, not_or] at oneLine
    have mark : ['-', '-'] <+: c :: (rest ++ cs) ↔ ['-', '-'] <+: c :: rest := by
      cases cs with
      | nil => rw [List.append_nil]
      | cons d cs =>
        obtain rfl := ends d rfl
        exact prefix_append_cons_iff (a := c :: rest) (by decide)
    rw [List.cons_append, codeOfLine_cons]
    by_cases here : ['-', '-'] <+: c :: rest
    · rw [if_pos here, List.nil_append]
      obtain ⟨behind, rfl, rfl⟩ : ∃ behind, c = '-' ∧ rest = '-' :: behind := by
        obtain ⟨behind, split⟩ := here
        obtain ⟨rfl, rfl⟩ := List.cons.inj split
        exact ⟨behind, rfl, rfl⟩
      exact copyCode_comment_append (fun inside => oneLine.2 (List.mem_cons_of_mem _ inside)) ends
    · rw [if_neg here, copyCode_code_cons (mt mark.1 here), ih oneLine.2, List.cons_append]

/-- The scanner leaves every line up to its first `--`. -/
theorem copyCode_eq (cs : List Char) : copyCode .code cs = codeText cs := by
  induction cs using induction_pieces '\n' with
  | last line oneLine =>
    have alone : copyCode .code (line ++ []) = codeOfLine line ++ copyCode .code [] :=
      copyCode_append oneLine (by simp)
    rw [List.append_nil] at alone
    rw [alone, codeText_of_oneLine oneLine]
    exact List.append_nil _
  | step line rest oneLine ih =>
    rw [copyCode_append oneLine (by simp), copyCode_break_cons, ih, codeText_append_cons,
      codeText_of_oneLine oneLine]

/-! ### Code between terminators -/

/-- Whether a character of the code is in a statement, which blanks and terminators need not be. -/
def isCode (c : Char) : Bool := !isBlank c && c != ';'

theorem isBlank_of_isCode (code : isCode c = true) : isBlank c = false := by
  rw [isCode, Bool.and_eq_true] at code
  simpa using code.1

/-- What is visible in each of some parts, where there is anything. -/
def visibleParts (parts : List (List Char)) : List (List Char) :=
  (parts.map visible).filter (!·.isEmpty)

theorem visibleParts_append (ls ms : List (List Char)) :
    visibleParts (ls ++ ms) = visibleParts ls ++ visibleParts ms := by
  rw [visibleParts, List.map_append, List.filter_append]
  rfl

theorem visibleParts_singleton (seen : visible line ≠ []) : visibleParts [line] = [visible line] := by
  simp [visibleParts, seen]

theorem flatten_visibleParts_singleton (line : List Char) :
    (visibleParts [line]).flatten = visible line := by
  rw [visibleParts, List.flatten_filter_not_isEmpty, List.map_singleton, List.flatten_singleton]

/-- Without terminators, what is visible is code. -/
theorem filter_isCode_of_notMem (absent : ';' ∉ cs) : cs.filter isCode = visible cs := by
  refine List.filter_congr fun c member => ?_
  have other : c ≠ ';' := fun same => absent (same ▸ member)
  rw [isCode, bne_iff_ne.2 other, Bool.and_true]

/-- What is visible between terminators is the code without them. -/
theorem flatten_visibleParts (cs : List Char) :
    (visibleParts (pieces (· == ';') cs)).flatten = cs.filter isCode := by
  induction cs using induction_pieces ';' with
  | last part absent =>
    rw [pieces_of_notMem absent, flatten_visibleParts_singleton, filter_isCode_of_notMem absent]
  | step part rest absent ih =>
    rw [pieces_append_cons (by rfl), pieces_of_notMem absent, visibleParts_append, List.flatten_append,
      flatten_visibleParts_singleton, ih, List.filter_append, filter_isCode_of_notMem absent,
      List.filter_cons_of_neg (by decide)]

/-- Each statement has what is visible between two terminators. -/
theorem map_visible_statementsOf (cs : List Char) : (statementsOf cs).map visible =
    visibleParts (pieces (· == ';') (codeText (withoutBlocks cs))) := by
  have seen : ∀ l : List (List Char), l.map visible = (l.map words).map List.flatten := fun l => by
    rw [List.map_map]
    exact List.map_congr_left fun p _ => (flatten_words p).symm
  have empty : ∀ p : List Char, (words p).isEmpty = (visible p).isEmpty := fun p => by
    rw [Bool.eq_iff_iff, List.isEmpty_iff, List.isEmpty_iff, words_eq_nil_iff, visible,
      List.filter_eq_nil_iff, List.all_eq_true]
    simp
  rw [seen, words_statementsOf, wordParts, visibleParts, List.filter_map, List.filter_map, ← seen]
  exact congrArg (List.map visible) (List.filter_congr fun p _ => congrArg not (empty p))

/-! ### Places -/

section Numbered

variable {α : Type} {a b : List (List α)} {x : α} {i k : Nat}

/-- The elements of some parts, one part after the other, each with the number of its part. -/
def numbered (parts : List (List α)) : List (α × Nat) :=
  parts.zipIdx.flatMap fun (part, i) => part.map fun x => (x, i)

theorem numbered_append (a b : List (List α)) :
    numbered (a ++ b) = numbered a ++ (numbered b).map fun (x, i) => (x, a.length + i) := by
  rw [numbered, List.zipIdx_append, List.flatMap_append, Nat.zero_add,
    List.zipIdx_eq_map_add (l := b), List.flatMap_map, numbered, numbered, List.map_flatMap]
  simp [Function.comp_def]

theorem numbered_singleton (part : List α) : numbered [part] = part.map fun x => (x, 0) := by
  simp [numbered]

theorem map_fst_numbered (parts : List (List α)) : (numbered parts).map Prod.fst = parts.flatten := by
  induction parts using List.reverseRecOn with
  | nil => rfl
  | append_singleton parts part ih =>
    rw [numbered_append, List.map_append, ih, numbered_singleton, List.flatten_append]
    simp [Function.comp_def]

theorem length_numbered (parts : List (List α)) : (numbered parts).length = parts.flatten.length := by
  rw [← map_fst_numbered, List.length_map]

theorem lt_of_mem_numbered (member : (x, i) ∈ numbered a) : i < a.length := by
  obtain ⟨⟨part, j⟩, inside, here⟩ := List.mem_flatMap.1 member
  obtain ⟨y, -, same⟩ := List.mem_map.1 here
  obtain ⟨-, rfl⟩ := Prod.mk.inj same
  obtain ⟨-, less, -⟩ := List.mem_zipIdx inside
  simpa using less

/-- The elements of the first parts come first. -/
theorem numbered_lt_iff (placed : (numbered (a ++ b))[k]? = some (x, i)) :
    i < a.length ↔ k < a.flatten.length := by
  rw [numbered_append] at placed
  rw [← length_numbered]
  rcases Nat.lt_or_ge k (numbered a).length with early | late
  · rw [List.getElem?_append_left early] at placed
    exact ⟨fun _ => early, fun _ => lt_of_mem_numbered (List.mem_of_getElem? placed)⟩
  · rw [List.getElem?_append_right late, List.getElem?_map, Option.map_eq_some_iff] at placed
    obtain ⟨⟨y, j⟩, -, same⟩ := placed
    obtain ⟨-, rfl⟩ := Prod.mk.inj same
    omega

end Numbered

/-- The code of a text, each character with the number of the part between terminators that it is in, where
those parts count that have any. -/
def placed (cs : List Char) : List (Char × Nat) := numbered (visibleParts (pieces (· == ';') cs))

theorem map_fst_placed (cs : List Char) : (placed cs).map Prod.fst = cs.filter isCode := by
  rw [placed, map_fst_numbered, flatten_visibleParts]

/-- Every character of the code has a place, which is told by how many come before it. -/
theorem exists_placed (code : isCode c = true) (u rest : List Char) :
    ∃ i, (placed (u ++ c :: rest))[u.countP isCode]? = some (c, i) := by
  have here := congrArg (·[u.countP isCode]?) (map_fst_placed (u ++ c :: rest))
  simp only [List.filter_append, List.filter_cons_of_pos code, List.getElem?_map,
    List.countP_eq_length_filter, List.getElem?_append_right (Nat.le_refl _), Nat.sub_self,
    List.getElem?_cons_zero, Option.map_eq_some_iff] at here ⊢
  obtain ⟨⟨_, i⟩, place, rfl⟩ := here
  exact ⟨i, place⟩

section TwoPlaces

variable {i j : Nat}

/-- Two characters with a terminator between them are in different parts. -/
theorem numbers_ne_of_mem (inside : ';' ∈ v) (code : isCode c = true)
    (first : (placed (u ++ c :: (v ++ d :: w)))[u.countP isCode]? = some (c, i))
    (second : (placed (u ++ c :: (v ++ d :: w)))[(u ++ c :: v).countP isCode]? = some (d, j)) :
    i ≠ j := by
  obtain ⟨v₁, v₂, rfl⟩ := List.append_of_mem inside
  have parted : u ++ c :: (v₁ ++ ';' :: v₂ ++ d :: w) = (u ++ c :: v₁) ++ ';' :: (v₂ ++ d :: w) := by
    simp
  rw [parted, placed, pieces_append_cons (by rfl), visibleParts_append] at first second
  have early := numbered_lt_iff first
  have late := numbered_lt_iff second
  simp only [flatten_visibleParts, ← List.countP_eq_length_filter, List.countP_append,
    List.countP_cons_of_pos code] at early late
  omega

/-- Text without terminators around two characters of the code is in one part with them. -/
theorem exists_visiblePart (absent : ';' ∉ v) (code : isCode c = true) (code' : isCode d = true) :
    ∃ (before after : List (List Char)) (part : List Char),
      visibleParts (pieces (· == ';') (u ++ c :: (v ++ d :: w))) = before ++ ([part] ++ after) ∧
      before.flatten.length ≤ u.countP isCode ∧
      (u ++ c :: v).countP isCode < before.flatten.length + part.length := by
  obtain ⟨ls, l, ends⟩ := exists_pieces_eq_concat (· == ';') u
  obtain ⟨m, ms, starts⟩ := exists_pieces_eq_cons (· == ';') w
  have whole : pieces (· == ';') (c :: v ++ [d]) = [] ++ [c :: v ++ [d]] := by
    refine pieces_of_notMem fun member => ?_
    simp only [List.mem_append, List.mem_cons, List.not_mem_nil, or_false] at member
    rcases member with (rfl | inside) | rfl
    · exact absurd code (by decide)
    · exact absent inside
    · exact absurd code' (by decide)
  have behind : pieces (· == ';') (c :: (v ++ d :: w)) = (c :: (v ++ d :: m)) :: ms := by
    simpa using pieces_append whole starts
  have seen : visible (l ++ c :: (v ++ d :: m)) = visible l ++ c :: (visible v ++ d :: visible m) := by
    simp [visible, isBlank_of_isCode code, isBlank_of_isCode code']
  have left : u.countP isCode = (visibleParts ls).flatten.length + (visible l).length := by
    rw [List.countP_eq_length_filter, ← flatten_visibleParts, ends, visibleParts_append,
      List.flatten_append, flatten_visibleParts_singleton, List.length_append]
  have between : v.countP isCode = (visible v).length := by
    rw [List.countP_eq_length_filter, filter_isCode_of_notMem absent]
  refine ⟨visibleParts ls, visibleParts ms, visible (l ++ c :: (v ++ d :: m)), ?_, by omega, ?_⟩
  · rw [pieces_append ends behind, List.append_cons, visibleParts_append, visibleParts_append,
      visibleParts_singleton (by simp [seen]), List.append_assoc]
  · rw [List.countP_append, List.countP_cons_of_pos code, left, between, seen]
    simp only [List.length_append, List.length_cons]
    omega

/-- Two characters without a terminator between them are in one part. -/
theorem numbers_eq_of_notMem (absent : ';' ∉ v) (code : isCode c = true) (code' : isCode d = true)
    (first : (placed (u ++ c :: (v ++ d :: w)))[u.countP isCode]? = some (c, i))
    (second : (placed (u ++ c :: (v ++ d :: w)))[(u ++ c :: v).countP isCode]? = some (d, j)) :
    i = j := by
  obtain ⟨before, after, part, parts, low, high⟩ := exists_visiblePart (u := u) (w := w) absent code code'
  have order : u.countP isCode ≤ (u ++ c :: v).countP isCode := by
    rw [List.countP_append]
    exact Nat.le_add_right ..
  rw [placed, parts] at first second
  -- both places are behind the parts before this one, and not behind it
  have notBefore := numbered_lt_iff first
  have notBefore' := numbered_lt_iff second
  rw [← List.append_assoc] at first second
  have notBehind := numbered_lt_iff first
  have notBehind' := numbered_lt_iff second
  rw [List.length_append, List.flatten_append, List.length_append, List.flatten_singleton,
    List.length_singleton] at notBehind notBehind'
  omega

end TwoPlaces

/-! ### Scripts -/

/-- The code of a script, which is what is left of it without its block comments, every line up to its first
`--`. -/
def codeOf (sql : String) : List Char := copyCode .code (withoutBlocks sql.toList)

/-- What is visible in the statements of a script, each character with the number of its statement. -/
def statementPlaces (sql : String) : List (Char × Nat) :=
  numbered ((statements sql).map fun statement => visible statement.toList)

theorem map_fst_statementPlaces (sql : String) :
    (statementPlaces sql).map Prod.fst = visible (String.join (statements sql)).toList := by
  rw [statementPlaces, map_fst_numbered, String.toList_join, visible, List.filter_flatMap]
  rfl

/-- The characters of the statements have the places that those of the code have. -/
theorem statementPlaces_eq (sql : String) : statementPlaces sql = placed (codeOf sql) := by
  have texts : (statements sql).map (fun statement => visible statement.toList) =
      (statementsOf sql.toList).map visible := by
    simp [statements, Function.comp_def]
  rw [statementPlaces, texts, map_visible_statementsOf, ← copyCode_eq]
  rfl

/-- All characters of the code but blanks and terminators, in their order, are what is visible in the
statements one after the other. With the places that they have there, two of them are in one statement if
and only if there is no terminator between them. -/
theorem code_conserved (sql : String) :
    visible (String.join (statements sql)).toList = (codeOf sql).filter isCode ∧
      (statementPlaces sql).map Prod.fst = (codeOf sql).filter isCode ∧
      ∀ u c v d w, codeOf sql = u ++ c :: (v ++ d :: w) → isCode c = true → isCode d = true →
        ∃ i j, (statementPlaces sql)[u.countP isCode]? = some (c, i) ∧
          (statementPlaces sql)[(u ++ c :: v).countP isCode]? = some (d, j) ∧ (i = j ↔ ';' ∉ v) := by
  have all : (statementPlaces sql).map Prod.fst = (codeOf sql).filter isCode := by
    rw [statementPlaces_eq, map_fst_placed]
  refine ⟨by rw [← map_fst_statementPlaces, all], all, ?_⟩
  intro u c v d w parted code code'
  rw [statementPlaces_eq, parted]
  have again : u ++ c :: (v ++ d :: w) = (u ++ c :: v) ++ d :: w := by simp
  obtain ⟨i, first⟩ := exists_placed code u (v ++ d :: w)
  obtain ⟨j, second⟩ : ∃ j, (placed (u ++ c :: (v ++ d :: w)))[(u ++ c :: v).countP isCode]? =
      some (d, j) := again ▸ exists_placed code' (u ++ c :: v) w
  refine ⟨i, j, first, second, ?_, ?_⟩
  · rintro rfl inside
    exact numbers_ne_of_mem inside code first second rfl
  · intro absent
    exact numbers_eq_of_notMem absent code code' first second

theorem code_conserved_scattered :
    codeOf "SELECT 1;; -- 2;\n\u2003+ 3 /* 4; */ - 5" =
        "SELECT ".toList ++ '1' :: (";; \n\u2003".toList ++ '+' :: " 3  - 5".toList) ∧
      isCode '1' = true ∧ isCode '+' = true ∧
      ∃ i j, (statementPlaces "SELECT 1;; -- 2;\n\u2003+ 3 /* 4; */ - 5")[6]? = some ('1', i) ∧
        (statementPlaces "SELECT 1;; -- 2;\n\u2003+ 3 /* 4; */ - 5")[7]? = some ('+', j) ∧ i ≠ j := by
  have parted : codeOf "SELECT 1;; -- 2;\n\u2003+ 3 /* 4; */ - 5" =
      "SELECT ".toList ++ '1' :: (";; \n\u2003".toList ++ '+' :: " 3  - 5".toList) := by decide +kernel
  have seen : isCode '1' = true := by decide
  have seen' : isCode '+' = true := by decide
  obtain ⟨i, j, first, second, same⟩ := (code_conserved _).2.2 _ _ _ _ _ parted seen seen'
  exact ⟨parted, seen, seen', i, j, first, second, fun equal => same.1 equal (by decide)⟩

end SchemaHistory.Sql
