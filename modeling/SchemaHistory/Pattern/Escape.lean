import SchemaHistory.Pattern.Basic
import SchemaHistory.Pattern.Cursor

/-!
What a backslash starts.

An escape stands for a character, for a set of characters or for an assertion. Punctuation behind a
backslash stands for itself; letters and digits that have no meaning are refused, and so are references
to groups. Without Unicode, a set that would hold half of a character beyond ASCII is refused.
-/

namespace SchemaHistory.Pattern

/-- A part of a pattern that is not built from others. -/
inductive Atom where
  | letter (c : Char)
  | set (s : CharSet)
  | assertion (a : Assertion)
  deriving Repr

/-- The complement of a set, which exists only with Unicode. -/
def negate? (flags : Flags) (s : CharSet) : Option CharSet :=
  if flags.unicode then some s.complement else none

/-- Whether a word in the braces behind `\b` may hold the character. -/
def isBoundaryLetter (c : Char) : Bool :=
  ('a' ≤ c && c ≤ 'z') || ('A' ≤ c && c ≤ 'Z') || c == '-'

/-- The letters at the start of a text, and what follows, past free spacing between them. -/
def boundaryLetters : Nat → Cursor → List Char × Cursor
  | 0, cur => ([], cur)
  | fuel + 1, cur =>
    match cur.rest with
    | c :: cs =>
      if isBoundaryLetter c then
        let (letters, after) := boundaryLetters fuel (cur.jumpTo cs)
        (c :: letters, after)
      else ([], cur)
    | [] => ([], cur)

/-- The assertion of the letter `b`, with a word in braces behind it that picks a side. Braces that
hold no letter are left to be read as a count. -/
def boundary? (cur : Cursor) : Option (Assertion × Cursor) :=
  let word := wordSet cur.flags.unicode
  match cur.rest with
  | '{' :: cs =>
    let inside := cur.jumpTo cs
    match inside.rest with
    | [] => none
    | c :: _ =>
      if !isBoundaryLetter c then some (.wordBoundary word, cur)
      else
        let (letters, after) := boundaryLetters (inside.rest.length + 1) inside
        match after.rest with
        | '}' :: rest =>
          let side : Option Assertion := match String.ofList letters with
            | "start" => some (.wordStart word)
            | "end" => some (.wordEnd word)
            | "start-half" => some (.noWordBefore word)
            | "end-half" => some (.noWordAfter word)
            | _ => none
          side.map fun a => (a, after.goTo rest)
        | _ => none
  | _ => some (.wordBoundary word, cur)

/-- The control character of a letter. -/
def controlChar? (c : Char) : Option Char :=
  match c with
  | 'a' => some (Char.ofNat 7)
  | 'f' => some (Char.ofNat 12)
  | 't' => some '\t'
  | 'n' => some '\n'
  | 'r' => some '\r'
  | 'v' => some (Char.ofNat 11)
  | _ => none

/-- Whether a character may stand for itself behind a backslash. -/
def isEscapable (c : Char) : Bool :=
  c.toNat < 128 && !c.isAlphanum && c != '<' && c != '>'

/-- Reads an escape behind its backslash. -/
def escape? (cur : Cursor) : Option (Atom × Cursor) := do
  let flags := cur.flags
  let c :: cs := cur.rest | none
  let after := cur.goTo cs
  let word := wordSet flags.unicode
  match c with
  | 'x' | 'u' | 'U' =>
    let width := if c == 'x' then 2 else if c == 'u' then 4 else 8
    let (d, fixed, after) ← codePoint? width (cur.jumpTo cs)
    if c == 'x' && fixed && !flags.unicode && d.toNat > 127 then none
    else return (.letter d, after)
  | 'p' | 'P' =>
    let (s, after) ← property? (cur.jumpTo cs)
    if !flags.unicode then none
    else
      let closed := closeSet flags s
      return (.set (if c == 'P' then closed.complement else closed), after)
  | 'd' | 's' | 'w' => return (.set (← wordClass? flags.unicode c), after)
  | 'D' | 'S' | 'W' => return (.set (← negate? flags (← wordClass? flags.unicode c)), after)
  | 'A' => return (.assertion .textStart, after)
  | 'z' => return (.assertion .textEnd, after)
  | 'b' => (boundary? after).map fun (a, after) => (.assertion a, after)
  | 'B' => return (.assertion (.noWordBoundary word), after)
  | '<' => return (.assertion (.wordStart word), after)
  | '>' => return (.assertion (.wordEnd word), after)
  | _ =>
    match controlChar? c with
    | some d => return (.letter d, after)
    | none => if isEscapable c then return (.letter c, after) else none

end SchemaHistory.Pattern
