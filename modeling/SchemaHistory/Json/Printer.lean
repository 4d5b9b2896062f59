import SchemaHistory.Json.Basic

/-!
JSON texts.

A value has a compact text, without blanks, and an indented one, with every item of an array and every
member of an object on a line of its own, two spaces deeper than the line that opens it. In both, a
quote, a backslash and the control characters are written as escapes, and all else stands for itself.
-/

namespace SchemaHistory

/-- The digits of a number. -/
def decimal (n : Nat) : List Char :=
  if h : n < 10 then [Char.ofNat (48 + n)] else decimal (n / 10) ++ [Char.ofNat (48 + n % 10)]
termination_by n

namespace Json

/-- The digit of a number below sixteen, with small letters. -/
def hexDigit (n : Nat) : Char := Char.ofNat (if n < 10 then 48 + n else 87 + n)

/-- A character inside a string. -/
def escape (c : Char) : List Char :=
  if c == '"' then ['\\', '"']
  else if c == '\\' then ['\\', '\\']
  else if c.toNat == 8 then ['\\', 'b']
  else if c.toNat == 9 then ['\\', 't']
  else if c.toNat == 10 then ['\\', 'n']
  else if c.toNat == 12 then ['\\', 'f']
  else if c.toNat == 13 then ['\\', 'r']
  else if c.toNat < 32 then ['\\', 'u', '0', '0', hexDigit (c.toNat / 16), hexDigit (c.toNat % 16)]
  else [c]

/-- A string with its quotes. One that is no text is written as half of a surrogate pair. -/
def quoted : Option String → List Char
  | some s => '"' :: s.toList.flatMap escape ++ ['"']
  | none => "\"\\ud800\"".toList

/-- The characters of a numeral. -/
def numeralText (n : Numeral) : List Char :=
  (if n.negative then ['-'] else []) ++ decimal n.whole ++
  (match n.fraction with
    | none => []
    | some digits => '.' :: digits.flatMap decimal) ++
  match n.exponent with
    | none => []
    | some (.ofNat e) => 'e' :: decimal e
    | some (.negSucc e) => 'e' :: '-' :: decimal (e + 1)

/-- The characters of a truth value. -/
def boolText (b : Bool) : List Char := if b then "true".toList else "false".toList

/-- The texts of a list, with a comma between neighbours. -/
def commaSeparated (l : List (List Char)) : List Char := List.intercalate [','] l

/-! ### The compact text -/

mutual

/-- The text of a value without blanks. -/
def compact : Json → List Char
  | null => "null".toList
  | bool b => boolText b
  | number n => numeralText n
  | string s => quoted s
  | array items => '[' :: commaSeparated (compactItems items) ++ [']']
  | object members => '{' :: commaSeparated (compactMembers members) ++ ['}']

/-- The items of an array, each on one line. -/
def compactItems : List Json → List (List Char)
  | [] => []
  | v :: vs => compact v :: compactItems vs

/-- The members of an object, each on one line. -/
def compactMembers : List (Option String × Json) → List (List Char)
  | [] => []
  | (name, v) :: rest => (quoted name ++ ':' :: compact v) :: compactMembers rest

end

/-! ### The indented text -/

/-- A new line that starts two spaces in for every level. -/
def newLine (level : Nat) : List Char := '\n' :: List.replicate (2 * level) ' '

/-- The texts of a list between two brackets, each on a line of its own. -/
def bracketed (start stop : Char) (level : Nat) : List (List Char) → List Char
  | [] => [start, stop]
  | l => start :: commaSeparated (l.map (newLine (level + 1) ++ ·)) ++ newLine level ++ [stop]

mutual

/-- The text of a value inside `level` brackets. -/
def indented (level : Nat) : Json → List Char
  | null => "null".toList
  | bool b => boolText b
  | number n => numeralText n
  | string s => quoted s
  | array items => bracketed '[' ']' level (indentedItems (level + 1) items)
  | object members => bracketed '{' '}' level (indentedMembers (level + 1) members)

/-- The items of an array, each over several lines. -/
def indentedItems (level : Nat) : List Json → List (List Char)
  | [] => []
  | v :: vs => indented level v :: indentedItems level vs

/-- The members of an object, each over several lines. -/
def indentedMembers (level : Nat) : List (Option String × Json) → List (List Char)
  | [] => []
  | (name, v) :: rest =>
    (quoted name ++ ':' :: ' ' :: indented level v) :: indentedMembers level rest

end

/-- The compact text of a value. -/
def compactText (v : Json) : String := String.ofList v.compact

/-- The indented text of a value. -/
def indentedText (v : Json) : String := String.ofList (v.indented 0)

end Json

end SchemaHistory
