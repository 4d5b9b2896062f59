import Mathlib.Tactic.SplitIfs
import SchemaHistory.Json.Printer
import SchemaHistory.Json.Reader

/-!
Numbers and strings that are written and read back.

A number is written in digits that do not start with a zero, unless it is zero; the digits are read up to
the first character that is none. A string is written character by character, each as itself or as an
escape, and what is written for a character is read as this character, whatever has been read before it.
-/

namespace SchemaHistory

/-! ### Numbers in digits -/

/-- Numbers are written in digits. -/
theorem isDigit_of_mem_decimal {n : Nat} {c : Char} (member : c ∈ decimal n) : c.isDigit = true := by
  have digit : ∀ d < 10, (Char.ofNat (48 + d)).isDigit = true := by decide
  fun_induction decimal n with
  | case1 n small =>
    rw [List.mem_singleton.1 member]
    exact digit n small
  | case2 n _ ih =>
    rcases List.mem_append.1 member with before | last
    · exact ih before
    · rw [List.mem_singleton.1 last]
      exact digit _ (Nat.mod_lt _ (by decide))

theorem decimal_ne_nil (n : Nat) : decimal n ≠ [] := by
  rw [decimal]
  split <;> simp

theorem exists_decimal_eq_cons (n : Nat) : ∃ c cs, decimal n = c :: cs ∧ c.isDigit = true := by
  obtain ⟨c, cs, split⟩ := List.exists_cons_of_ne_nil (decimal_ne_nil n)
  exact ⟨c, cs, split, isDigit_of_mem_decimal (split ▸ List.mem_cons_self)⟩

theorem ne_of_isDigit {c mark : Char} (digit : c.isDigit = true) (other : mark.isDigit = false) :
    c ≠ mark := by
  rintro rfl
  rw [other] at digit
  cases digit

namespace Json

variable {cs rest : List Char} {c : Char} {n : Nat}

theorem digitOf_ofNat (small : n < 10) : digitOf (Char.ofNat (48 + n)) = n := by
  have all : ∀ d < 10, digitOf (Char.ofNat (48 + d)) = d := by decide
  exact all n small

/-- The digits of a number stand for it. -/
theorem natOfDigits_decimal (n : Nat) : natOfDigits ((decimal n).map digitOf) = n := by
  fun_induction decimal n with
  | case1 n small => simp [natOfDigits, digitOf_ofNat small]
  | case2 n _ ih =>
    rw [natOfDigits] at ih
    rw [natOfDigits, List.map_append, List.foldl_append, ih, List.map_singleton, List.foldl_cons,
      List.foldl_nil, digitOf_ofNat (Nat.mod_lt _ (by decide)), Nat.div_add_mod']

/-- The first digit of a number is a zero only for zero. -/
theorem digitOf_head?_decimal (positive : 0 < n) : ∀ c ∈ (decimal n).head?, digitOf c ≠ 0 := by
  fun_induction decimal n with
  | case1 n small =>
    intro c head
    obtain rfl : Char.ofNat (48 + n) = c := by simpa using head
    rw [digitOf_ofNat small]
    exact Nat.pos_iff_ne_zero.1 positive
  | case2 n large ih =>
    obtain ⟨d, ds, split, -⟩ := exists_decimal_eq_cons (n / 10)
    rw [split] at ih ⊢
    exact ih (by omega)

theorem digits_decimal_append (n : Nat) (stops : ∀ c ∈ rest.head?, isDigit c = false) :
    digits (decimal n ++ rest) = ((decimal n).map digitOf, rest) := by
  have inside : ∀ c ∈ decimal n, isDigit c = true := fun c member => isDigit_of_mem_decimal member
  have behind : rest.takeWhile isDigit = [] ∧ rest.dropWhile isDigit = rest := by
    cases rest with
    | nil => exact ⟨rfl, rfl⟩
    | cons d ds => simp [stops d rfl]
  rw [digits, List.takeWhile_append_of_pos inside, List.dropWhile_append_of_pos inside, behind.1,
    behind.2, List.append_nil]

theorem whole?_decimal_append (n : Nat) (stops : ∀ c ∈ rest.head?, isDigit c = false) :
    whole? (decimal n ++ rest) = some (n, rest) := by
  have value := natOfDigits_decimal n
  rw [whole?, digits_decimal_append n stops]
  cases split : (decimal n).map digitOf with
  | nil => exact absurd (List.map_eq_nil_iff.1 split) (decimal_ne_nil n)
  | cons d ds =>
    rw [split] at value
    cases ds with
    | nil => simpa [natOfDigits] using value
    | cons e es =>
      have first : d ≠ 0 := by
        have positive : 0 < n := by
          rcases Nat.eq_zero_or_pos n with rfl | positive
          · simp [decimal] at split
          · exact positive
        obtain ⟨c, cs, whole, -⟩ := exists_decimal_eq_cons n
        rw [whole, List.map_cons] at split
        rw [← (List.cons.inj split).1]
        exact digitOf_head?_decimal positive c (by rw [whole]; rfl)
      simp [first, value]

/-- What may stand behind a value: a blank, a comma or a closing bracket, or nothing. -/
def Stops (rest : List Char) : Prop := ∀ c ∈ rest.head?, c ∈ [' ', '\t', '\n', '\r', ',', ']', '}']

/-- None of these goes on with a number. -/
theorem Stops.outside (stops : Stops rest) :
    ∀ c ∈ rest.head?, isDigit c = false ∧ c ≠ '.' ∧ (c == 'e' || c == 'E') = false := by
  intro c head
  have mark := stops c head
  simp only [List.mem_cons, List.not_mem_nil, or_false] at mark
  rcases mark with rfl | rfl | rfl | rfl | rfl | rfl | rfl <;> decide

theorem numeral?_decimal_append (n : Nat) (stops : Stops rest) :
    numeral? (decimal n ++ rest) = some (.ofNat n, rest) := by
  have whole := whole?_decimal_append n fun c head => (stops.outside c head).1
  have noFraction : fraction? rest = some (none, rest) := by
    cases rest with
    | nil => rfl
    | cons c cs =>
      rw [fraction?]
      intro ds same
      exact (stops.outside c rfl).2.1 (List.cons.inj same).1
  have noExponent : exponent? rest = some (none, rest) := by
    cases rest with
    | nil => rfl
    | cons c cs =>
      have other := (stops.outside c rfl).2.2
      simp [exponent?, other]
  have unsigned : ∀ ds, decimal n ++ rest ≠ '-' :: ds := by
    intro ds same
    obtain ⟨c, cs, split, digit⟩ := exists_decimal_eq_cons n
    rw [split, List.cons_append] at same
    exact ne_of_isDigit digit (by decide) (List.cons.inj same).1
  rw [numeral?]
  · simp [whole, noFraction, noExponent, Numeral.ofNat]
  · exact unsigned

/-! ### Strings -/

theorem hex4?_hexDigit (small : n < 32) :
    hex4? '0' '0' (hexDigit (n / 16)) (hexDigit (n % 16)) = some n := by
  have all : ∀ n < 32, hex4? '0' '0' (hexDigit (n / 16)) (hexDigit (n % 16)) = some n := by decide
  exact all n small

theorem stringFrom_simpleEscape {e : Char} (escaped : simpleEscape? e = some c)
    (before rest : List Char) :
    stringFrom ⟨some before, none⟩ ('\\' :: e :: rest) = stringFrom ⟨some (c :: before), none⟩ rest := by
  have other : e ≠ 'u' := by
    rintro rfl
    cases escaped
  rw [stringFrom, escaped]
  · rfl
  · simp [other]

theorem stringFrom_unit (small : c.toNat < 32) (before rest : List Char) :
    stringFrom ⟨some before, none⟩
        ('\\' :: 'u' :: '0' :: '0' :: hexDigit (c.toNat / 16) :: hexDigit (c.toNat % 16) :: rest) =
      stringFrom ⟨some (c :: before), none⟩ rest := by
  have noSurrogate : isHighSurrogate c.toNat = false ∧ isLowSurrogate c.toNat = false := by
    simp only [isHighSurrogate, isLowSurrogate, Bool.and_eq_false_iff, decide_eq_false_iff_not]
    omega
  rw [stringFrom, hex4?_hexDigit small]
  simp [StringSoFar.addUnit, noSurrogate, StringSoFar.addChar]

/-- What is written for a character is read as this character. -/
theorem stringFrom_escape_append (c : Char) (before rest : List Char) :
    stringFrom ⟨some before, none⟩ (escape c ++ rest) = stringFrom ⟨some (c :: before), none⟩ rest := by
  have named : ∀ n : Nat, c.toNat = n → c = Char.ofNat n := by
    rintro n rfl
    exact (Char.ofNat_toNat c).symm
  rw [escape]
  split_ifs with quote backslash backspace tab lineFeed formFeed carriageReturn control
  · exact stringFrom_simpleEscape (by rw [eq_of_beq quote]; rfl) ..
  · exact stringFrom_simpleEscape (by rw [eq_of_beq backslash]; rfl) ..
  · exact stringFrom_simpleEscape (by rw [named 8 (eq_of_beq backspace)]; rfl) ..
  · exact stringFrom_simpleEscape (by rw [named 9 (eq_of_beq tab)]; rfl) ..
  · exact stringFrom_simpleEscape (by rw [named 10 (eq_of_beq lineFeed)]; rfl) ..
  · exact stringFrom_simpleEscape (by rw [named 12 (eq_of_beq formFeed)]; rfl) ..
  · exact stringFrom_simpleEscape (by rw [named 13 (eq_of_beq carriageReturn)]; rfl) ..
  · exact stringFrom_unit control ..
  · rw [List.singleton_append, stringFrom, if_neg control]
    · rfl
    all_goals simp_all

theorem stringFrom_flatMap_escape (cs before rest : List Char) :
    stringFrom ⟨some before, none⟩ (cs.flatMap escape ++ '"' :: rest) =
      some (some (String.ofList (before.reverse ++ cs)), rest) := by
  induction cs generalizing before with
  | nil => simp [stringFrom, StringSoFar.text?]
  | cons c cs ih =>
    rw [List.flatMap_cons, List.append_assoc, stringFrom_escape_append, ih, List.reverse_cons,
      List.append_assoc]
    rfl

theorem quoted_some_append (s : String) (rest : List Char) :
    quoted (some s) ++ rest = '"' :: (s.toList.flatMap escape ++ '"' :: rest) := by
  have whole : quoted (some s) = '"' :: (s.toList.flatMap escape ++ ['"']) := rfl
  rw [whole, List.cons_append, List.append_assoc, List.singleton_append]

/-- A written string is read as it was. -/
theorem stringFrom_escaped (s : String) (rest : List Char) :
    stringFrom .start (s.toList.flatMap escape ++ '"' :: rest) = some (some s, rest) := by
  rw [StringSoFar.start, stringFrom_flatMap_escape, List.reverse_nil, List.nil_append,
    String.ofList_toList]

end Json

end SchemaHistory
