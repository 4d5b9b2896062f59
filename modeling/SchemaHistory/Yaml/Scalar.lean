import SchemaHistory.Yaml.Place

/-!
Scalars of a YAML text.

A plain or a quoted scalar may run over several lines. What lies between two of its words, the gap, is
kept as it is while it stays on one line; a single line end folds to a space, and of several all but the
first are kept. A block scalar keeps its lines, or folds them in the same way where both neighbours start
with no blank, and its header says what becomes of the line ends behind the last line.

What is read over several lines is given a number, the fuel, that is greater than the number of characters
left; every step takes one from it.
-/

namespace SchemaHistory.Yaml

/-! ### Gaps -/

/-- Blanks and line ends between two words. -/
structure Gap where
  /-- The blanks before the first line end. -/
  blanks : List Char
  /-- Whether there is a line end. -/
  broken : Bool
  /-- What the first line end stands for, unless it is escaped. -/
  first : List Char
  /-- What the other line ends stand for. -/
  more : List Char

namespace Gap

/-- The gap without characters. -/
def none : Gap := ⟨[], false, [], []⟩

/-- The gap that an escaped line end starts. -/
def escaped : Gap := ⟨[], true, [], []⟩

/-- What the gap stands for. -/
def text (g : Gap) : List Char :=
  if !g.broken then g.blanks
  else if g.first == ['\n'] then (if g.more.isEmpty then [' '] else g.more)
  else g.first ++ g.more

/-- The gap with one more line end. -/
def addBreak (g : Gap) (text : List Char) : Gap :=
  if g.broken then { g with more := g.more ++ text }
  else { g with blanks := [], broken := true, first := text }

end Gap

/-- Reads a gap to its end. Behind a line end no tab may stand before column `indent`. -/
def gap? (indent : Nat) : Nat → Place → Gap → Option (Gap × Place)
  | 0, _, _ => none
  | fuel + 1, p, g =>
    match p.rest with
    | [] => some (g, p)
    | c :: _ =>
      if isGap c then
        if g.broken && p.column < indent && c == '\t' then none
        else gap? indent fuel (p.skip 1)
          (if g.broken then g else { g with blanks := g.blanks ++ [c] })
      else if isBreak c then gap? indent fuel p.nextLine (g.addBreak p.lineBreak)
      else some (g, p)

/-! ### Plain scalars -/

/-- An indicator of flow collections. -/
def isFlowIndicator (c : Char) : Bool :=
  c == ',' || c == '[' || c == ']' || c == '{' || c == '}'

/-- Whether a plain scalar stops before a text. -/
def stopsPlain (inFlow : Bool) : List Char → Bool
  | [] => true
  | c :: cs => isGap c || isBreak c || (c == ':' && atGap cs) || (inFlow && isFlowIndicator c)

/-- Whether a colon stands here that may stand neither in a plain scalar nor behind one. -/
def badColon (inFlow : Bool) : List Char → Bool
  | ':' :: c :: _ => inFlow && (isFlowIndicator c || c == '?')
  | _ => false

/-- The word of a plain scalar at the start of a text. -/
def plainWord? (inFlow : Bool) : List Char → Option (List Char)
  | [] => some []
  | c :: cs =>
    if badColon inFlow (c :: cs) then none
    else if stopsPlain inFlow (c :: cs) then some []
    else (plainWord? inFlow cs).map (c :: ·)

/-- A scalar that has been read: its text, the place behind it, and whether that place is on a later
line than the last word. -/
structure PlainScalar where
  text : List Char
  after : Place
  broken : Bool

/-- Reads a plain scalar on from a place behind `done`, the characters so far in reverse, and the gap
`g`. In block collections it ends where a line starts before column `indent`. -/
def plainFrom? (inFlow : Bool) (indent : Nat) : Nat → Place → List Char → Gap → Option PlainScalar
  | 0, _, _, _ => none
  | fuel + 1, p, done, g => do
    if p.atDocumentMark || p.rest.head? == some '#' then return ⟨done.reverse, p, g.broken⟩
    else
      let word ← plainWord? inFlow p.rest
      if word.isEmpty then return ⟨done.reverse, p, g.broken⟩
      else
        let after := p.skip word.length
        let done := word.reverse ++ (g.text.reverse ++ done)
        let (g, next) ← gap? indent (fuel + 1) after .none
        if next.index == after.index then return ⟨done.reverse, after, false⟩
        else if !inFlow && next.column < indent then return ⟨done.reverse, next, g.broken⟩
        else plainFrom? inFlow indent fuel next done g

/-- Reads a plain scalar. -/
def plain? (inFlow : Bool) (indent fuel : Nat) (p : Place) : Option PlainScalar :=
  plainFrom? inFlow indent fuel p [] .none

/-! ### Quoted scalars -/

/-- The value of a digit in base sixteen. -/
def hexDigit? (c : Char) : Option Nat :=
  if '0' ≤ c && c ≤ '9' then some (c.toNat - 48)
  else if 'a' ≤ c && c ≤ 'f' then some (c.toNat - 87)
  else if 'A' ≤ c && c ≤ 'F' then some (c.toNat - 55)
  else none

/-- The character of a code point that is given by digits in base sixteen. -/
def codePoint? (digits : List Char) : Option Char := do
  let values ← digits.mapM hexDigit?
  let n := values.foldl (fun m d => m * 16 + d) 0
  if (0xD800 ≤ n && n ≤ 0xDFFF) || 0x10FFFF < n then none else return Char.ofNat n

/-- What a backslash and a character stand for, if no digits belong to them. -/
def simpleEscape? (c : Char) : Option Char :=
  match c with
  | '0' => some (Char.ofNat 0)
  | 'a' => some (Char.ofNat 7)
  | 'b' => some (Char.ofNat 8)
  | 't' => some '\t'
  | '\t' => some '\t'
  | 'n' => some '\n'
  | 'v' => some (Char.ofNat 11)
  | 'f' => some (Char.ofNat 12)
  | 'r' => some '\r'
  | 'e' => some (Char.ofNat 27)
  | ' ' => some ' '
  | '"' => some '"'
  | '/' => some '/'
  | '\\' => some '\\'
  | 'N' => some (Char.ofNat 0x85)
  | '_' => some (Char.ofNat 0xA0)
  | 'L' => some (Char.ofNat 0x2028)
  | 'P' => some (Char.ofNat 0x2029)
  | _ => none

/-- How many digits belong to the letter of an escape. -/
def escapeDigits (c : Char) : Nat :=
  match c with
  | 'x' => 2
  | 'u' => 4
  | 'U' => 8
  | _ => 0

/-- Reads an escape behind its backslash, where no line ends. -/
def escape? (p : Place) : Option (Char × Place) := do
  let c :: cs := p.rest | none
  let digits := escapeDigits c
  if digits == 0 then return (← simpleEscape? c, p.skip 1)
  else if cs.length < digits then none
  else return (← codePoint? (cs.take digits), p.skip (digits + 1))

/-- Reads a quoted scalar on from a place behind `done`, the characters so far in reverse, up to and
past its closing quote. -/
def quotedFrom? (quote : Char) : Nat → Place → List Char → Option (List Char × Place)
  | 0, _, _ => none
  | fuel + 1, p, done => do
    if p.atDocumentMark then none
    else
      let c :: cs := p.rest | none
      if isGap c || isBreak c then
        let (g, next) ← gap? 0 (fuel + 1) p .none
        quotedFrom? quote fuel next (g.text.reverse ++ done)
      else if c == quote then
        if quote != '"' && cs.head? == some quote then
          quotedFrom? quote fuel (p.skip 2) (quote :: done)
        else return (done.reverse, p.skip 1)
      else if quote == '"' && c == '\\' then
        if (cs.head?.map isBreak).getD false then
          let (g, next) ← gap? 0 (fuel + 1) (p.skip 1).nextLine .escaped
          quotedFrom? quote fuel next (g.text.reverse ++ done)
        else
          let (d, next) ← escape? (p.skip 1)
          quotedFrom? quote fuel next (d :: done)
      else quotedFrom? quote fuel (p.skip 1) (c :: done)

/-- Reads a quoted scalar behind its opening quote. -/
def quoted? (quote : Char) (fuel : Nat) (p : Place) : Option (List Char × Place) :=
  quotedFrom? quote fuel p []

/-! ### Block scalars -/

/-- What becomes of the line ends behind the last line of a block scalar. -/
inductive Chomping where
  | strip | clip | keep
  deriving Repr, DecidableEq

/-- The sign that picks a chomping, at the start of a text. -/
def chomping? : List Char → Option Chomping
  | '+' :: _ => some .keep
  | '-' :: _ => some .strip
  | _ => none

/-- The digit that gives the indentation, at the start of a text. A zero is an error. -/
def indentDigit? : List Char → Option (Option Nat)
  | c :: _ => if c == '0' then none else some (if c.isDigit then some (c.toNat - 48) else none)
  | [] => some none

/-- Reads the header of a block scalar behind its indicator: a sign and a digit, in either order. -/
def blockHeader? (p : Place) : Option (Chomping × Option Nat × Place) := do
  match chomping? p.rest with
  | some chomping =>
    let p := p.skip 1
    let digit ← indentDigit? p.rest
    return (chomping, digit, p.skip digit.toList.length)
  | none =>
    let digit ← indentDigit? p.rest
    let p := p.skip digit.toList.length
    match digit, chomping? p.rest with
    | some _, some chomping => return (chomping, digit, p.skip 1)
    | _, _ => return (.clip, digit, p)

/-- Skips the indentation of a line and the empty lines before it. While the indentation is not known,
all spaces belong to it, and `widest` is the furthest column so far. -/
def emptyLines? (indent : Option Nat) : Nat → Place → Nat → List Char →
    Option (Place × Nat × List Char)
  | 0, _, _, _ => none
  | fuel + 1, p, widest, breaks =>
    let inIndent : Nat → Bool := fun column => (indent.map fun i => decide (column < i)).getD true
    let spaces := (p.rest.takeWhile (· == ' ')).length
    let p := p.skip ((indent.map fun i => min spaces (i - p.column)).getD spaces)
    let widest := max widest p.column
    match p.rest with
    | [] => some (p, widest, breaks)
    | c :: _ =>
      if c == '\t' && inIndent p.column then none
      else if isBreak c then emptyLines? indent fuel p.nextLine widest (breaks ++ p.lineBreak)
      else some (p, widest, breaks)

/-- The text of a block scalar so far. -/
structure BlockText where
  /-- The characters, last one first. -/
  done : List Char
  /-- What the end of the last line stands for. -/
  lineEnd : List Char
  /-- What the ends of the empty lines behind it stand for. -/
  empties : List Char
  /-- Whether the last line starts with a blank. -/
  blankStart : Bool

/-- Adds a line, and what the line ends before it stand for. -/
def BlockText.addLine (folded : Bool) (t : BlockText) (line lineEnd : List Char) : BlockText :=
  let blankStart := (line.head?.map isGap).getD false
  let between :=
    if folded && t.lineEnd == ['\n'] && !t.blankStart && !blankStart then
      (if t.empties.isEmpty then [' '] else t.empties)
    else t.lineEnd ++ t.empties
  ⟨line.reverse ++ between.reverse ++ t.done, lineEnd, [], blankStart⟩

/-- Reads the lines of a block scalar with a known indentation. -/
def blockLines? (folded : Bool) (indent : Nat) : Nat → Place → BlockText → Option (BlockText × Place)
  | 0, _, _ => none
  | fuel + 1, p, t =>
    if p.column != indent || p.rest.isEmpty then some (t, p)
    else
      let line := p.rest.takeWhile (!isBreak ·)
      let atEnd := p.skip line.length
      let next := if atEnd.rest.isEmpty then atEnd else atEnd.nextLine
      let t := t.addLine folded line atEnd.lineBreak
      match emptyLines? (some indent) (fuel + 1) next 0 [] with
      | none => none
      | some (p, _, breaks) => blockLines? folded indent fuel p { t with empties := breaks }

/-- Reads a block scalar behind its indicator. `parent` is the indentation of the collection that
holds it, or less than zero. -/
def block? (folded : Bool) (parent : Int) (fuel : Nat) (p : Place) : Option (List Char × Place) := do
  let (chomping, digit, p) ← blockHeader? p
  let p ← p.endOfLine?
  let given := digit.map fun d => if parent ≥ 0 then parent.toNat + d else d
  let (p, widest, breaks) ← emptyLines? given fuel p 0 []
  let indent := given.getD (max (max widest (parent + 1).toNat) 1)
  let (t, p) ← blockLines? folded indent fuel p ⟨[], [], breaks, false⟩
  let tail := match chomping with
    | .strip => []
    | .clip => t.lineEnd
    | .keep => t.lineEnd ++ t.empties
  return (t.done.reverse ++ tail, p)

end SchemaHistory.Yaml
