import SchemaHistory.Json.Basic

/-!
Reading JSON.

`Json.read?` accepts one value with blanks around it and nothing else: no comma after the last item, no
control character inside a string, no zero before other digits. It keeps whatever the text says; what a
reader of records makes of a number out of range, of half a surrogate pair or of a repeated member is
settled later. Every step that goes one bracket deeper or one item further takes at least one character,
so the length of the text bounds the number of steps.
-/

namespace SchemaHistory.Json

/-! ### Blanks, digits and numbers -/

/-- A space, a tab, a line feed or a carriage return. -/
def isSpace (c : Char) : Bool := c == ' ' || c == '\t' || c == '\n' || c == '\r'

/-- Leaves out the blanks at the start. -/
def skipSpace (cs : List Char) : List Char := cs.dropWhile isSpace

/-- Whether a character is a decimal digit. -/
def isDigit (c : Char) : Bool := '0' ≤ c && c ≤ '9'

/-- The value of a decimal digit. -/
def digitOf (c : Char) : Nat := c.toNat - 48

/-- The digits at the start of a text, and what follows. -/
def digits (cs : List Char) : List Nat × List Char :=
  ((cs.takeWhile isDigit).map digitOf, cs.dropWhile isDigit)

/-- The number that decimal digits stand for. -/
def natOfDigits (l : List Nat) : Nat := l.foldl (fun m d => m * 10 + d) 0

/-- The digits before the point: a zero alone, or digits that do not start with a zero. -/
def whole? (cs : List Char) : Option (Nat × List Char) :=
  match digits cs with
  | ([], _) => none
  | ([d], rest) => some (d, rest)
  | (0 :: _, _) => none
  | (ds, rest) => some (natOfDigits ds, rest)

/-- A point and the digits behind it, if there is a point. -/
def fraction? : List Char → Option (Option (List Nat) × List Char)
  | '.' :: cs =>
    match digits cs with
    | ([], _) => none
    | (ds, rest) => some (some ds, rest)
  | cs => some (none, cs)

/-- The power of ten, if there is one. -/
def exponent? : List Char → Option (Option Int × List Char)
  | c :: cs =>
    if c == 'e' || c == 'E' then
      let (negative, cs) := match cs with
        | '-' :: cs => (true, cs)
        | '+' :: cs => (false, cs)
        | cs => (false, cs)
      match digits cs with
      | ([], _) => none
      | (ds, rest) =>
        let n := natOfDigits ds
        some (some (if negative then -(n : Int) else n), rest)
    else some (none, c :: cs)
  | [] => some (none, [])

/-- The number at the start of a text. -/
def numeral? (cs : List Char) : Option (Numeral × List Char) := do
  let (negative, cs) := match cs with
    | '-' :: cs => (true, cs)
    | cs => (false, cs)
  let (whole, cs) ← whole? cs
  let (fraction, cs) ← fraction? cs
  let (exponent, cs) ← exponent? cs
  return (⟨negative, whole, fraction, exponent⟩, cs)

/-! ### Strings -/

/-- The value of a digit in base sixteen. -/
def hexValue? (c : Char) : Option Nat :=
  if isDigit c then some (c.toNat - 48)
  else if 'a' ≤ c && c ≤ 'f' then some (c.toNat - 87)
  else if 'A' ≤ c && c ≤ 'F' then some (c.toNat - 55)
  else none

/-- The value of four digits in base sixteen. -/
def hex4? (a b c d : Char) : Option Nat := do
  return (((← hexValue? a) * 16 + (← hexValue? b)) * 16 + (← hexValue? c)) * 16 + (← hexValue? d)

/-- What a backslash and a letter stand for. -/
def simpleEscape? (c : Char) : Option Char :=
  if c == '"' || c == '\\' || c == '/' then some c
  else if c == 'b' then some (Char.ofNat 8)
  else if c == 'f' then some (Char.ofNat 12)
  else if c == 'n' then some '\n'
  else if c == 'r' then some '\r'
  else if c == 't' then some '\t'
  else none

/-- Whether a code is the first of a pair of surrogates. -/
def isHighSurrogate (n : Nat) : Bool := 0xD800 ≤ n && n ≤ 0xDBFF

/-- Whether a code is the second of a pair of surrogates. -/
def isLowSurrogate (n : Nat) : Bool := 0xDC00 ≤ n && n ≤ 0xDFFF

/-- The character that a surrogate pair stands for. -/
def joinSurrogates (high low : Nat) : Char :=
  Char.ofNat (0x10000 + (high - 0xD800) * 1024 + (low - 0xDC00))

/-- What has been read of a string. -/
structure StringSoFar where
  /-- The characters, last one first, or nothing once half of a surrogate pair has been met. -/
  done : Option (List Char)
  /-- The first half of a surrogate pair that stands at the end. -/
  high : Option Nat

namespace StringSoFar

/-- What is read of a string at its start. -/
def start : StringSoFar := ⟨some [], none⟩

/-- Adds a character that is no half of a surrogate pair. -/
def addChar (s : StringSoFar) (c : Char) : StringSoFar :=
  match s.high with
  | some _ => ⟨none, none⟩
  | none => ⟨s.done.map (c :: ·), none⟩

/-- Adds what an escape with four digits stands for. -/
def addUnit (s : StringSoFar) (n : Nat) : StringSoFar :=
  match s.high with
  | some high =>
    if isLowSurrogate n then ⟨s.done.map (joinSurrogates high n :: ·), none⟩ else ⟨none, none⟩
  | none =>
    if isHighSurrogate n then ⟨s.done, some n⟩
    else if isLowSurrogate n then ⟨none, none⟩
    else s.addChar (Char.ofNat n)

/-- The string, if it is a text. -/
def text? (s : StringSoFar) : Option String :=
  match s.high with
  | some _ => none
  | none => s.done.map fun cs => String.ofList cs.reverse

end StringSoFar

/-- Reads the rest of a string up to its closing quote. -/
def stringFrom (s : StringSoFar) : List Char → Option (Option String × List Char)
  | [] => none
  | '"' :: rest => some (s.text?, rest)
  | '\\' :: 'u' :: a :: b :: c :: d :: rest =>
    match hex4? a b c d with
    | none => none
    | some n => stringFrom (s.addUnit n) rest
  | '\\' :: c :: rest =>
    match simpleEscape? c with
    | none => none
    | some e => stringFrom (s.addChar e) rest
  | c :: rest => if c.toNat < 32 then none else stringFrom (s.addChar c) rest

/-! ### Values -/

/-- What follows a word at the start of a text. -/
def literal? (word : String) (cs : List Char) : Option (List Char) :=
  if word.toList.isPrefixOf cs then some (cs.drop word.length) else none

mutual

/-- Reads the value at the start of a text. -/
def value? : Nat → List Char → Option (Json × List Char)
  | 0, _ => none
  | fuel + 1, cs =>
    match cs with
    | '[' :: rest =>
      match skipSpace rest with
      | ']' :: after => some (array [], after)
      | rest => (items? fuel rest).map fun (items, after) => (array items, after)
    | '{' :: rest =>
      match skipSpace rest with
      | '}' :: after => some (object [], after)
      | rest => (members? fuel rest).map fun (members, after) => (object members, after)
    | '"' :: rest => (stringFrom .start rest).map fun (s, after) => (string s, after)
    | 'n' :: _ => (literal? "null" cs).map fun after => (null, after)
    | 't' :: _ => (literal? "true" cs).map fun after => (bool true, after)
    | 'f' :: _ => (literal? "false" cs).map fun after => (bool false, after)
    | _ => (numeral? cs).map fun (n, after) => (number n, after)

/-- Reads one or more items up to the closing bracket; no blank stands at the start. -/
def items? : Nat → List Char → Option (List Json × List Char)
  | 0, _ => none
  | fuel + 1, cs => do
    let (v, rest) ← value? fuel cs
    match skipSpace rest with
    | ']' :: after => return ([v], after)
    | ',' :: rest =>
      let (vs, after) ← items? fuel (skipSpace rest)
      return (v :: vs, after)
    | _ => none

/-- Reads one or more members up to the closing brace; no blank stands at the start. -/
def members? : Nat → List Char → Option (List (Option String × Json) × List Char)
  | 0, _ => none
  | fuel + 1, cs => do
    let '"' :: rest := cs | none
    let (name, rest) ← stringFrom .start rest
    let ':' :: rest := skipSpace rest | none
    let (v, rest) ← value? fuel (skipSpace rest)
    match skipSpace rest with
    | '}' :: after => return ([(name, v)], after)
    | ',' :: rest =>
      let (members, after) ← members? fuel (skipSpace rest)
      return ((name, v) :: members, after)
    | _ => none

end

/-- Reads a text that is one value. -/
def read? (cs : List Char) : Option Json := do
  let (v, rest) ← value? (cs.length + 1) (skipSpace cs)
  if (skipSpace rest).isEmpty then some v else none

end SchemaHistory.Json
