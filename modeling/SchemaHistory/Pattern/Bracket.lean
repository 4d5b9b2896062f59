import SchemaHistory.Pattern.Escape

/-!
Sets of characters in brackets.

Between brackets stand characters, ranges, escapes, named ASCII sets and further brackets, all of which
are united; `&&`, `--` and `~~` take the intersection, the difference and the symmetric difference of
what stands on their two sides, from left to right. A `^` behind the opening bracket takes the
complement. A hyphen at the start or the end stands for itself, and so does a closing bracket at the
start. With the flag for any case, every operand and every bracket holds its letters in all their cases.
-/

namespace SchemaHistory.Pattern

/-- A set that has been read, and how deep its brackets and lists nest. -/
structure Nested where
  set : CharSet
  depth : Nat

/-- The operations on two sets. -/
inductive SetOp where
  | intersection | difference | symmetricDifference
  deriving Repr, DecidableEq

/-- The set that an operator makes of two sets. -/
def SetOp.apply : SetOp → CharSet → CharSet → CharSet
  | intersection, s, t => s.inter t
  | difference, s, t => s.diff t
  | symmetricDifference, s, t => s.symmDiff t

/-- The deepest of a list. -/
def deepest (l : List Nat) : Nat := l.foldl max 0

/-- The union of a list of items. Two or more are one level deeper than the items. -/
def unite (items : List Nested) : Nested :=
  match items with
  | [] => ⟨.empty, 0⟩
  | [item] => item
  | _ => ⟨.unions (items.map (·.set)), deepest (items.map (·.depth)) + 1⟩

/-- Joins an operand to what stands before it. -/
def join (flags : Flags) (pending : Option (SetOp × Nested)) (operand : Nested) : Nested :=
  match pending with
  | none => operand
  | some (op, left) =>
    ⟨op.apply (closeSet flags left.set) (closeSet flags operand.set),
      max left.depth operand.depth + 1⟩

/-- The set of a bracket with its letters in all their cases, or its complement. -/
def finish? (flags : Flags) (negated : Bool) (inner : Nested) : Option Nested := do
  let closed := closeSet flags inner.set
  return ⟨← if negated then negate? flags closed else some closed, inner.depth + 1⟩

/-- A named ASCII set behind its opening bracket, if one stands there. -/
def namedAscii? (flags : Flags) (cs : List Char) : Option (Option CharSet × List Char) :=
  match cs with
  | ':' :: rest =>
    let (negated, rest) := match rest with
      | '^' :: rest => (true, rest)
      | rest => (false, rest)
    let name := rest.takeWhile (· != ':')
    match rest.dropWhile (· != ':') with
    | ':' :: ']' :: after =>
      (asciiSet? (String.ofList name)).map fun s =>
        let closed := closeSet flags s
        (if negated then negate? flags closed else some closed, after)
    | _ => none
  | _ => none

/-- A character or an escape inside brackets. -/
def bracketAtom? (cur : Cursor) : Option (Atom × Cursor) :=
  match cur.rest with
  | '\\' :: cs => escape? (cur.goTo cs)
  | c :: cs => some (.letter c, cur.goTo cs)
  | [] => none

/-- The code point of an item that is one character. -/
def letter? (flags : Flags) : Atom → Option Char
  | .letter c => if flags.unicode || c.toNat < 128 then some c else none
  | _ => none

/-- The set of an item that is no range. -/
def atomSet? (flags : Flags) : Atom → Option CharSet
  | .letter c => (letter? flags (.letter c)).map .single
  | .set s => some s
  | .assertion _ => none

/-- Reads one item: a range if a hyphen follows that is neither the last character nor part of an
operation, and a single atom otherwise. -/
def item? (cur : Cursor) : Option (Nested × Cursor) := do
  let (first, cur) ← bracketAtom? cur
  let cur := cur.skip
  let c :: cs := cur.rest | none
  if c != '-' || cur.peek? == some ']' || cur.peek? == some '-' then
    return (⟨← atomSet? cur.flags first, 0⟩, cur)
  else
    let (last, cur) ← bracketAtom? (cur.jumpTo cs)
    let lo ← letter? cur.flags first
    let hi ← letter? cur.flags last
    if lo ≤ hi then return (⟨.range lo hi, 0⟩, cur) else none

/-- The hyphens at the start of a bracket. -/
def leadingHyphens : Nat → Cursor → List Nested × Cursor
  | 0, cur => ([], cur)
  | fuel + 1, cur =>
    match cur.rest with
    | '-' :: cs =>
      let (items, after) := leadingHyphens fuel (cur.jumpTo cs)
      (⟨.single '-', 0⟩ :: items, after)
    | _ => ([], cur)

/-- The start of a bracket behind the opening bracket: whether it is negated, and the characters that
stand for themselves there. -/
def openBracket (cur : Cursor) : Bool × List Nested × Cursor :=
  let cur := cur.skip
  let (negated, cur) := match cur.rest with
    | '^' :: cs => (true, cur.jumpTo cs)
    | _ => (false, cur)
  let (items, cur) := leadingHyphens (cur.rest.length + 1) cur
  match items, cur.rest with
  | [], ']' :: cs => (negated, [⟨.single ']', 0⟩], cur.jumpTo cs)
  | _, _ => (negated, items, cur)

/-- The operation that stands at the start of a text. -/
def setOp? : List Char → Option (SetOp × List Char)
  | '&' :: '&' :: cs => some (.intersection, cs)
  | '-' :: '-' :: cs => some (.difference, cs)
  | '~' :: '~' :: cs => some (.symmetricDifference, cs)
  | _ => none

/-- Reads the rest of a bracket up to and past its closing bracket. `pending` is the operand and the
operation before the items, which stand last one first. -/
def bracketFrom? : Nat → Cursor → Option (SetOp × Nested) → List Nested → Option (Nested × Cursor)
  | 0, _, _, _ => none
  | fuel + 1, cur, pending, items =>
    let cur := cur.skip
    match cur.rest with
    | [] => none
    | ']' :: cs => some (join cur.flags pending (unite items.reverse), cur.goTo cs)
    | '[' :: cs =>
      match namedAscii? cur.flags cs with
      | some (found, after) => do
        bracketFrom? fuel (cur.goTo after) pending (⟨← found, 0⟩ :: items)
      | none => do
        let (negated, start, inside) := openBracket (cur.goTo cs)
        let (inner, after) ← bracketFrom? fuel inside none start.reverse
        bracketFrom? fuel after pending ((← finish? cur.flags negated inner) :: items)
    | _ =>
      match setOp? cur.rest with
      | some (op, after) =>
        bracketFrom? fuel (cur.goTo after)
          (some (op, join cur.flags pending (unite items.reverse))) []
      | none => do
        let (item, after) ← item? cur
        bracketFrom? fuel after pending (item :: items)

/-- Reads a bracket behind its opening bracket. -/
def bracket? (cur : Cursor) : Option (Nested × Cursor) := do
  let (negated, start, inside) := openBracket cur
  let (inner, after) ← bracketFrom? (cur.rest.length + 1) inside none start.reverse
  return (← finish? cur.flags negated inner, after)

end SchemaHistory.Pattern
