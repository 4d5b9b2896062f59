/-!
Places in a YAML text.

A place is what is left of the text, with the number of characters before it and its line and column,
all counted from zero. A carriage return with a line feed behind it ends one line.
-/

namespace SchemaHistory.Yaml

/-- A place in a text. -/
structure Place where
  rest : List Char
  index : Nat
  line : Nat
  column : Nat
  deriving Repr, DecidableEq

/-! ### Characters -/

/-- A character that ends a line. -/
def isBreak (c : Char) : Bool :=
  c == '\n' || c == '\r' || c.toNat == 0x85 || c.toNat == 0x2028 || c.toNat == 0x2029

/-- A space or a tab. -/
def isGap (c : Char) : Bool := c == ' ' || c == '\t'

/-- A letter or digit of ASCII, an underscore or a hyphen. -/
def isNameChar (c : Char) : Bool := c.isAlphanum || c == '_' || c == '-'

/-- Whether a character may stand in a YAML text at all. -/
def isAllowed (c : Char) : Bool :=
  let n := c.toNat
  n == 9 || n == 10 || n == 13 || (32 ≤ n && n ≤ 126) || n == 0x85 || (0xA0 ≤ n && n ≤ 0xD7FF) ||
    (0xE000 ≤ n && n ≤ 0xFFFD && n != 0xFEFF) || 0x10000 ≤ n

/-- Whether a text starts with a blank or the end of a line, or is at its own end. -/
def atGap : List Char → Bool
  | [] => true
  | c :: _ => isGap c || isBreak c

namespace Place

/-- The start of a text. -/
def start (text : List Char) : Place := ⟨text, 0, 0, 0⟩

/-- The place a number of characters further on the same line. -/
def skip (p : Place) (n : Nat) : Place :=
  { p with rest := p.rest.drop n, index := p.index + n, column := p.column + n }

/-- The place behind the characters of the line for which `keep` holds. -/
def skipWhile (p : Place) (keep : Char → Bool) : Place :=
  p.skip (p.rest.takeWhile keep).length

/-- The start of the next line, where a line ends here. -/
def nextLine (p : Place) : Place :=
  let n := if p.rest.take 2 == ['\r', '\n'] then 2 else 1
  ⟨p.rest.drop n, p.index + n, p.line + 1, 0⟩

/-- What the end of a line stands for in a scalar: a line feed, unless it is one of the two separators
of Unicode, which stand for themselves. -/
def lineBreak (p : Place) : List Char :=
  match p.rest with
  | c :: _ => if c.toNat == 0x2028 || c.toNat == 0x2029 then [c] else ['\n']
  | [] => []

/-- The place behind a comment, if one starts here. -/
def skipComment (p : Place) : Place :=
  match p.rest with
  | '#' :: _ => p.skipWhile (!isBreak ·)
  | _ => p

/-- The place behind blanks, a comment and the end of the line, if nothing else is left on it. -/
def endOfLine? (p : Place) : Option Place :=
  let p := (p.skipWhile isGap).skipComment
  match p.rest with
  | [] => some p
  | c :: _ => if isBreak c then some p.nextLine else none

/-- Whether a document starts or ends here: three hyphens or three points at the start of a line. -/
def atDocumentMark (p : Place) : Bool :=
  p.column == 0 && (p.rest.take 3 == ['-', '-', '-'] || p.rest.take 3 == ['.', '.', '.']) &&
    atGap (p.rest.drop 3)

end Place

end SchemaHistory.Yaml
