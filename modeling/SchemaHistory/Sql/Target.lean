import SchemaHistory.Text.Blank
import SchemaHistory.Text.CaseFolding
import SchemaHistory.Text.Lowercase

/-!
What a statement creates or drops.

A statement is searched from left to right for the first place where one of five clauses begins:

    CREATE kind [IF NOT EXISTS] name
    DROP kind [IF EXISTS] name
    ALTER TABLE name ADD CONSTRAINT name
    ALTER TABLE name ADD FOREIGN KEY name
    ALTER TABLE name DROP CONSTRAINT name

Words are told apart by letters alone, whatever their case, and parted by blanks. A name is a run of
letters, digits and underscores that starts with no digit, with or without a quote on either side, and
is read in small letters. Where nothing that can be a name follows `IF NOT EXISTS`, the `IF` itself is
read as the name.
-/

namespace SchemaHistory

/-- The kinds of object whose creation and removal are followed. -/
inductive ObjectKind where
  | table | index | type | function | procedure | trigger | sequence | view
  deriving Repr, DecidableEq, Inhabited

/-- An object of a schema. -/
structure ObjectRef where
  kind : ObjectKind
  name : String
  deriving Repr, DecidableEq

/-- A constraint on a table. -/
structure ConstraintRef where
  table : String
  name : String
  deriving Repr, DecidableEq

namespace ObjectKind

/-- All kinds, in the order in which a clause tries them. -/
def all : List ObjectKind :=
  [.table, .index, .type, .function, .procedure, .trigger, .sequence, .view]

/-- The word for a kind. -/
def keyword : ObjectKind → String
  | .table => "TABLE"
  | .index => "INDEX"
  | .type => "TYPE"
  | .function => "FUNCTION"
  | .procedure => "PROCEDURE"
  | .trigger => "TRIGGER"
  | .sequence => "SEQUENCE"
  | .view => "VIEW"

/-- The kind that a list of characters spells in ASCII letters, capital or small. -/
def ofChars? (cs : List Char) : Option ObjectKind :=
  all.find? fun kind => kind.keyword.toList == cs.map Char.toUpper

/-- The kind that a word spells in ASCII letters, capital or small. -/
def ofKeyword? (word : String) : Option ObjectKind := ofChars? word.toList

end ObjectKind

namespace Sql

/-! ### Words and names -/

/-- What follows a word at the start of a text, and the word as it is spelled there. -/
def word? : List Char → List Char → Option (List Char × List Char)
  | [], cs => some ([], cs)
  | _ :: _, [] => none
  | k :: ks, c :: cs =>
    if sameLetter k c then (word? ks cs).map fun (spelled, rest) => (c :: spelled, rest) else none

/-- What follows the blanks at the start of a text, which must be there. -/
def blanks? : List Char → Option (List Char)
  | c :: cs => if isBlank c then some (trimStart cs) else none
  | [] => none

/-- What follows a list of words, each with blanks behind it. -/
def phrase? : List String → List Char → Option (List Char)
  | [], cs => some cs
  | w :: ws, cs => do
    let (_, rest) ← word? w.toList cs
    phrase? ws (← blanks? rest)

/-- A letter from `a` to `z` in any of its cases, or an underscore. -/
def startsName (c : Char) : Bool :=
  let letter := foldChar c
  ('a' ≤ letter && letter ≤ 'z') || c == '_'

/-- A character of a name behind its first. -/
def continuesName (c : Char) : Bool := startsName c || ('0' ≤ c && c ≤ '9')

/-- A backtick, a double or a single quote. -/
def isQuote (c : Char) : Bool := c.toNat == 0x60 || c == '"' || c.toNat == 0x27

/-- The text without the quote at its start, if there is one. -/
def dropQuote : List Char → List Char
  | c :: cs => if isQuote c then cs else c :: cs
  | [] => []

/-- The name at the start of a text, with or without quotes around it, and what follows. -/
def name? (cs : List Char) : Option (List Char × List Char) :=
  match dropQuote cs with
  | c :: rest =>
    if startsName c then
      some (c :: rest.takeWhile continuesName, dropQuote (rest.dropWhile continuesName))
    else none
  | [] => none

/-- A name in small letters. -/
def nameText (cs : List Char) : String := String.ofList (lower cs)

/-! ### Clauses -/

/-- The word for a kind at the start of a text, as it is spelled there, and what follows. -/
def kindWord? (cs : List Char) : Option (List Char × List Char) :=
  ObjectKind.all.findSome? fun kind => word? kind.keyword.toList cs

/-- The spelled kind and the name of a clause that starts with `verb` at the start of a text. The
words of `condition` may stand before the name; if none follows them, they are read as no condition. -/
def objectClause? (verb : String) (condition : List String) (cs : List Char) :
    Option (List Char × List Char) := do
  let (kind, rest) ← kindWord? (← phrase? [verb] cs)
  let rest ← blanks? rest
  let (name, _) ← (phrase? condition rest).bind name? <|> name? rest
  return (kind, name)

/-- The table and the name of a clause `ALTER TABLE table action name` at the start of a text. -/
def constraintClause? (action : List String) (cs : List Char) :
    Option (List Char × List Char) := do
  let (table, rest) ← name? (← phrase? ["ALTER", "TABLE"] cs)
  let (name, _) ← name? (← phrase? action (← blanks? rest))
  return (table, name)

/-- The first clause that starts anywhere in a text. -/
def firstClause? {α : Type} (clause? : List Char → Option α) : List Char → Option α
  | [] => none
  | c :: cs =>
    match clause? (c :: cs) with
    | some found => some found
    | none => firstClause? clause? cs

/-- The object that the first clause of a form is about. A kind that is not spelled in ASCII letters
names no object. -/
def objectOf? (verb : String) (condition : List String) (sql : String) : Option ObjectRef := do
  let (kind, name) ← firstClause? (objectClause? verb condition) sql.toList
  return ⟨← ObjectKind.ofChars? kind, nameText name⟩

/-- The constraint that the first clause of a form is about. -/
def constraintOf? (action : List String) (sql : String) : Option ConstraintRef := do
  let (table, name) ← firstClause? (constraintClause? action) sql.toList
  return ⟨nameText table, nameText name⟩

/-! ### The recognizers -/

/-- The object that a statement creates. -/
def created? (sql : String) : Option ObjectRef := objectOf? "CREATE" ["IF", "NOT", "EXISTS"] sql

/-- The object that a statement drops. -/
def dropped? (sql : String) : Option ObjectRef := objectOf? "DROP" ["IF", "EXISTS"] sql

/-- The constraint that a statement adds, as a constraint or else as a foreign key. -/
def constraintAdded? (sql : String) : Option ConstraintRef :=
  constraintOf? ["ADD", "CONSTRAINT"] sql <|> constraintOf? ["ADD", "FOREIGN", "KEY"] sql

/-- The constraint that a statement drops. -/
def constraintDropped? (sql : String) : Option ConstraintRef :=
  constraintOf? ["DROP", "CONSTRAINT"] sql

end Sql

end SchemaHistory
