import SchemaHistory.Pattern.Bracket
import SchemaHistory.Pattern.Match
import SchemaHistory.Pattern.Size

/-!
Reading a pattern.

A pattern is a list of branches between bars, a branch a list of parts, and a part a character, a set,
an assertion or a group, with any number of repetitions behind it. Flags hold from where they are
switched to the end of the group. A text is refused when it is not of this form, when groups, lists and
repetitions nest too deep, or when the pattern is too large.
-/

namespace SchemaHistory

namespace Pattern

/-- A part that has been read: the pattern, how deep it nests, and whether it can be repeated. -/
structure Part where
  pattern : Pattern
  depth : Nat
  repeatable : Bool

/-- The parts of a branch behind one another; they stand last one first. -/
def branch (parts : List Part) : Part :=
  match parts with
  | [] => ⟨empty, 0, false⟩
  | [part] => part
  | _ => ⟨sequence (parts.reverse.map (·.pattern)), deepest (parts.map (·.depth)) + 1, true⟩

/-- A choice between branches; they stand last one first. -/
def branches (last : Part) (before : List Part) : Part :=
  match before.reverse with
  | [] => last
  | first :: rest =>
    ⟨choice first.pattern ((rest ++ [last]).map (·.pattern)),
      deepest ((last :: before).map (·.depth)) + 1, true⟩

/-! ### Groups -/

/-- Whether a group can have a name with this character. -/
def isNameChar (first : Bool) (c : Char) : Bool :=
  c == '_' || CharSet.alphabetic.contains c ||
    (!first && (c == '.' || c == '[' || c == ']' || CharSet.alphanumeric.contains c))

/-- Reads the name of a group up to and past the closing bracket. -/
def groupName? (cur : Cursor) : Option Cursor :=
  let name := cur.rest.takeWhile (· != '>')
  match name, cur.rest.dropWhile (· != '>') with
  | first :: others, _ :: rest =>
    if isNameChar true first && others.all (isNameChar false) && !cur.names.contains name then
      some { cur with rest := rest, names := name :: cur.names }
    else none
  | _, _ => none

/-- What an opening parenthesis starts: flags for the rest of the enclosing group, or a group. -/
inductive Opening where
  | flags (after : Cursor)
  | group (captures : Bool) (inside : Cursor)

/-- Reads what stands behind an opening parenthesis. -/
def opening? (cur : Cursor) : Option Opening :=
  let cur := cur.skip
  match cur.rest with
  | '?' :: '=' :: _ => none
  | '?' :: '!' :: _ => none
  | '?' :: '<' :: '=' :: _ => none
  | '?' :: '<' :: '!' :: _ => none
  | '?' :: 'P' :: '<' :: cs => (groupName? (cur.goTo cs)).map (.group true)
  | '?' :: '<' :: cs => (groupName? (cur.goTo cs)).map (.group true)
  | '?' :: cs => do
    let (letters, stop, rest) ← flagLetters? cs
    let after := { cur with rest := rest, flags := ← newFlags? cur.flags letters }
    if stop == ':' then return .group false after
    else if letters.isEmpty then none
    else return .flags after
  | _ => some (.group true cur)

/-! ### Repetitions -/

/-- Repeats the last part of a branch. -/
def repeatLast? (least : Nat) (most : Option Nat) : List Part → Option (List Part)
  | [] => none
  | part :: parts =>
    if part.repeatable then some (⟨.repeated part.pattern least most, part.depth + 1, true⟩ :: parts)
    else none

/-- The place behind the question mark that makes a repetition take as little as it can. -/
def skipGreed (cur : Cursor) : Cursor :=
  match cur.rest with
  | '?' :: cs => cur.goTo cs
  | _ => cur

/-- Reads the bounds of a repetition behind the opening brace. -/
def bounds? (cur : Cursor) : Option (Nat × Option Nat × Cursor) := do
  let (least, cur) ← count? cur.skip
  let least ← least
  match cur.rest with
  | '}' :: cs => return (least, some least, skipGreed (cur.jumpTo cs))
  | ',' :: cs =>
    let cur := cur.jumpTo cs
    match cur.rest with
    | '}' :: cs => return (least, none, skipGreed (cur.jumpTo cs))
    | _ =>
      let (most, cur) ← count? cur
      let most ← most
      let '}' :: cs := cur.rest | none
      if least ≤ most then return (least, some most, skipGreed (cur.jumpTo cs)) else none
  | _ => none

/-! ### Parts -/

/-- A single character, in all its cases if the flags ask for that. -/
def letterPart (flags : Flags) (c : Char) : Part := ⟨.set (letterSet flags c), 0, true⟩

/-- The part of an atom outside brackets. -/
def atomPart (flags : Flags) : Atom → Part
  | .letter c => letterPart flags c
  | .set s => ⟨.set s, 0, true⟩
  | .assertion a => ⟨.assertion a, 0, true⟩

/-- The set of a dot, which exists only with Unicode. -/
def dot? (flags : Flags) : Option CharSet :=
  if !flags.unicode then none
  else if flags.dotAll then some .all
  else if flags.crlf then some (CharSet.complement ⟨[(10, 10), (13, 13)]⟩)
  else some (CharSet.complement ⟨[(10, 10)]⟩)

/-- The assertion of a caret. -/
def caret (flags : Flags) : Assertion :=
  if !flags.multiLine then .textStart else if flags.crlf then .anyLineStart else .lineStart

/-- The assertion of a dollar sign. -/
def dollar (flags : Flags) : Assertion :=
  if !flags.multiLine then .textEnd else if flags.crlf then .anyLineEnd else .lineEnd

/-- Reads a part that starts with none of the characters that structure a pattern. -/
def part? (cur : Cursor) : Option (Part × Cursor) :=
  match cur.rest with
  | [] => none
  | '[' :: cs => (bracket? (cur.goTo cs)).map fun (n, after) => (⟨.set n.set, n.depth, true⟩, after)
  | '\\' :: cs => (escape? (cur.goTo cs)).map fun (a, after) => (atomPart cur.flags a, after)
  | '.' :: cs => (dot? cur.flags).map fun s => (⟨.set s, 0, true⟩, cur.goTo cs)
  | '^' :: cs => some (⟨.assertion (caret cur.flags), 0, true⟩, cur.goTo cs)
  | '$' :: cs => some (⟨.assertion (dollar cur.flags), 0, true⟩, cur.goTo cs)
  | c :: cs => some (letterPart cur.flags c, cur.goTo cs)

/-- Reads branches up to a closing parenthesis that none of their groups opened, or to the end.
`before` holds the branches so far and `parts` the parts of the current one, both last one first. -/
def branchesFrom? : Nat → Cursor → List Part → List Part → Option (Part × Cursor)
  | 0, _, _, _ => none
  | fuel + 1, cur, before, parts =>
    let cur := cur.skip
    match cur.rest with
    | [] => some (branches (branch parts) before, cur)
    | ')' :: _ => some (branches (branch parts) before, cur)
    | '|' :: cs => branchesFrom? fuel (cur.goTo cs) (branch parts :: before) []
    | '(' :: cs => do
      match ← opening? (cur.goTo cs) with
      | .flags after => branchesFrom? fuel after before (⟨empty, 0, false⟩ :: parts)
      | .group captures inside =>
        let (inner, after) ← branchesFrom? fuel inside [] []
        let ')' :: rest := after.rest | none
        let pattern := if captures then captured inner.pattern else inner.pattern
        branchesFrom? fuel { after with rest := rest, flags := cur.flags } before
          (⟨pattern, inner.depth + 1, true⟩ :: parts)
    | '?' :: cs => do
      branchesFrom? fuel (skipGreed (cur.goTo cs)) before (← repeatLast? 0 (some 1) parts)
    | '*' :: cs => do
      branchesFrom? fuel (skipGreed (cur.goTo cs)) before (← repeatLast? 0 none parts)
    | '+' :: cs => do
      branchesFrom? fuel (skipGreed (cur.goTo cs)) before (← repeatLast? 1 none parts)
    | '{' :: cs => do
      let (least, most, after) ← bounds? (cur.goTo cs)
      branchesFrom? fuel after before (← repeatLast? least most parts)
    | _ => do
      let (part, after) ← part? cur
      branchesFrom? fuel after before (part :: parts)

/-- How deep a pattern may nest. -/
def depthLimit : Nat := 250

/-- The flags that patterns of a policy start with: letters match whatever their case. -/
def anyCase : Flags := ⟨true, false, false, false, true, false, false⟩

/-- Reads a pattern that matches letters whatever their case. -/
def parse? (text : String) : Option Pattern := do
  let cs := text.toList
  let (part, after) ← branchesFrom? (cs.length + 1) ⟨cs, anyCase, []⟩ [] []
  if after.rest.isEmpty && part.depth ≤ depthLimit && part.pattern.size ≤ sizeLimit then
    return part.pattern
  else none

end Pattern

end SchemaHistory
