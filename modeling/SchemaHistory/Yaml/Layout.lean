import SchemaHistory.Yaml.Token

/-!
Cutting a YAML text into tokens.

Outside flow collections the columns of keys and entries decide where block collections start and end.
A key need not be marked: anything that can be a key is remembered as a possible one, and when a colon
follows, the token for a key is put in front of it, and before that the start of a mapping if its column
is further right than that of the collection around it. A possible key must be on one line with its
colon and no longer than 1024 characters.
-/

namespace SchemaHistory.Yaml

/-- A place where a key may have started. -/
structure PossibleKey where
  /-- Whether anything but a key is an error here. -/
  required : Bool
  /-- How many tokens stand before it. -/
  tokens : Nat
  index : Nat
  line : Nat
  column : Nat
  deriving Repr

/-- How far the text has been cut. -/
structure Layout where
  place : Place
  /-- The tokens so far, the last one first. -/
  tokens : List Token
  /-- How many tokens there are. -/
  count : Nat
  /-- The columns of the open block collections, the innermost first, each less than the one before. -/
  indents : List Int
  /-- The possible keys of the open flow collections and of the block around them, the innermost
  first. -/
  keys : List (Option PossibleKey)
  /-- Whether a key may start at the place. -/
  keyAllowed : Bool

namespace Layout

/-- The layout before the first token. -/
def start (text : List Char) : Layout := ⟨.start text, [], 0, [], [none], true⟩

/-- The column of the innermost block collection. -/
def indent (s : Layout) : Int := s.indents.head?.getD (-1)

/-- Whether the place is within brackets or braces. -/
def inFlow (s : Layout) : Bool := s.keys.length > 1

/-- The layout at another place. -/
def moveTo (s : Layout) (p : Place) : Layout := { s with place := p }

/-- Adds a token at the end. -/
def push (s : Layout) (t : Token) : Layout :=
  { s with tokens := t :: s.tokens, count := s.count + 1 }

/-- Says whether a key may follow. -/
def allowKey (s : Layout) (b : Bool) : Layout := { s with keyAllowed := b }

/-- Puts a token behind the first `n` tokens. -/
def insertAt (s : Layout) (n : Nat) (t : Token) : Layout :=
  let later := s.count - n
  { s with
    tokens := s.tokens.take later ++ t :: s.tokens.drop later
    count := s.count + 1 }

/-! ### Keys -/

/-- Forgets a possible key that the place has left behind. -/
def dropStale? (p : Place) : Option PossibleKey → Option (Option PossibleKey)
  | none => some none
  | some k =>
    if k.line < p.line || k.index + 1024 < p.index then (if k.required then none else some none)
    else some (some k)

/-- Forgets all possible keys that the place has left behind. -/
def dropStaleKeys? (s : Layout) : Option Layout := do
  return { s with keys := ← s.keys.mapM (dropStale? s.place) }

/-- Forgets the innermost possible key, which must not be required. -/
def forgetKey? (s : Layout) : Option Layout :=
  match s.keys with
  | some k :: rest => if k.required then none else some { s with keys := none :: rest }
  | _ => some s

/-- Remembers that a key may start at the place. -/
def rememberKey? (s : Layout) : Option Layout := do
  if !s.keyAllowed then return s
  else
    let p := s.place
    let required := !s.inFlow && s.indent == (p.column : Int)
    let s ← s.forgetKey?
    return { s with keys := some ⟨required, s.count, p.index, p.line, p.column⟩ :: s.keys.drop 1 }

/-! ### Indentation -/

/-- Opens a block collection at a column, if it is further right than the innermost one. -/
def openBlock (s : Layout) (column : Nat) (before : Nat) (t : Token) : Layout :=
  if !s.inFlow && s.indent < (column : Int) then
    { s.insertAt before t with indents := (column : Int) :: s.indents }
  else s

/-- Closes the block collections that are further right than a column. -/
def closeBlocks (s : Layout) (column : Int) : Layout :=
  if s.inFlow then s
  else
    let closed := s.indents.takeWhile (column < ·)
    { s with
      tokens := List.replicate closed.length .blockEnd ++ s.tokens
      count := s.count + closed.length
      indents := s.indents.drop closed.length }

/-! ### Single tokens -/

/-- Skips blanks, comments and line ends. A tab is skipped only where no key may start. -/
def skipToToken : Nat → Layout → Layout
  | 0, s => s
  | fuel + 1, s =>
    let tabs := s.inFlow || !s.keyAllowed
    let p := (s.place.skipWhile fun c => c == ' ' || (tabs && c == '\t')).skipComment
    match p.rest with
    | c :: _ =>
      if isBreak c then
        skipToToken fuel { s with place := p.nextLine, keyAllowed := s.keyAllowed || !s.inFlow }
      else s.moveTo p
    | [] => s.moveTo p

/-- Adds a token of `n` characters. -/
def take (s : Layout) (n : Nat) (t : Token) : Layout := (s.push t).moveTo (s.place.skip n)

/-- The mark of a document. -/
def documentMark? (s : Layout) (t : Token) : Option Layout := do
  return ((← (s.closeBlocks (-1)).forgetKey?).allowKey false).take 3 t

/-- The start of a flow collection. -/
def openFlow? (s : Layout) (t : Token) : Option Layout := do
  let s ← s.rememberKey?
  return ({ s with keys := none :: s.keys }.allowKey true).take 1 t

/-- The end of a flow collection. -/
def closeFlow? (s : Layout) (t : Token) : Option Layout := do
  let s ← s.forgetKey?
  let s := if s.inFlow then { s with keys := s.keys.drop 1 } else s
  return (s.allowKey false).take 1 t

/-- The comma of a flow collection. -/
def flowEntry? (s : Layout) : Option Layout := do
  return ((← s.forgetKey?).allowKey true).take 1 .flowEntry

/-- The hyphen of an entry. -/
def blockEntry? (s : Layout) : Option Layout := do
  if !s.inFlow && !s.keyAllowed then none
  else
    let s := s.openBlock s.place.column s.count .blockSequenceStart
    return ((← s.forgetKey?).allowKey true).take 1 .blockEntry

/-- The question mark of a key. -/
def markedKey? (s : Layout) : Option Layout := do
  if !s.inFlow && !s.keyAllowed then none
  else
    let s := s.openBlock s.place.column s.count .blockMappingStart
    return ((← s.forgetKey?).allowKey (!s.inFlow)).take 1 .key

/-- The colon of a value. -/
def value? (s : Layout) : Option Layout :=
  match s.keys with
  | some k :: rest =>
    let s := (s.insertAt k.tokens .key).openBlock k.column k.tokens .blockMappingStart
    some (({ s with keys := none :: rest }.allowKey false).take 1 .value)
  | _ =>
    if !s.inFlow && !s.keyAllowed then none
    else
      let s := s.openBlock s.place.column s.count .blockMappingStart
      some ((s.allowKey (!s.inFlow)).take 1 .value)

/-- A token that may be a key, with the place behind it. -/
def keyLike? (s : Layout) (read : Option (Token × Place)) : Option Layout := do
  let s ← s.rememberKey?
  let (t, p) ← read
  return ((s.allowKey false).push t).moveTo p

/-- A plain scalar. -/
def plainScalar? (s : Layout) (fuel : Nat) : Option Layout := do
  let s ← s.rememberKey?
  let found ← plain? s.inFlow (s.indent + 1).toNat fuel s.place
  return ((s.push (.scalar found.text true)).moveTo found.after).allowKey found.broken

/-- A block scalar. -/
def blockScalar? (s : Layout) (folded : Bool) (fuel : Nat) : Option Layout := do
  let s ← s.forgetKey?
  let (text, p) ← block? folded s.indent fuel (s.place.skip 1)
  return ((s.push (.scalar text false)).moveTo p).allowKey true

/-- Whether a plain scalar may start with a character that is followed by a text. -/
def startsPlain (inFlow : Bool) (c : Char) (cs : List Char) : Bool :=
  let indicator := "-?:,[]\x7b\x7d#&*!|>'\"%@".toList.contains c || c.toNat == 0x60
  (!indicator && !isGap c && !isBreak c) ||
    (c == '-' && !((cs.head?.map isGap).getD false)) ||
    (!inFlow && (c == '?' || c == ':') && !atGap cs)

/-- Reads the next token, which is there, and whatever tokens the layout puts before it. -/
def token? (s : Layout) (c : Char) (cs : List Char) (fuel : Nat) : Option Layout :=
  let p := s.place
  let inFlow := s.inFlow
  if p.column == 0 && c == '%' then do
    let s ← (s.closeBlocks (-1)).forgetKey?
    let (t, p) ← directive? (p.skip 1)
    return ((s.allowKey false).push t).moveTo p
  else if p.atDocumentMark then s.documentMark? (if c == '-' then .documentStart else .documentEnd)
  else if c == '[' then s.openFlow? .flowSequenceStart
  else if c == '{' then s.openFlow? .flowMappingStart
  else if c == ']' then s.closeFlow? .flowSequenceEnd
  else if c == '}' then s.closeFlow? .flowMappingEnd
  else if c == ',' then s.flowEntry?
  else if c == '-' && atGap cs then s.blockEntry?
  else if c == '?' && (inFlow || atGap cs) then s.markedKey?
  else if c == ':' && (inFlow || atGap cs) then s.value?
  else if c == '*' then
    s.keyLike? ((anchorName? (p.skip 1)).map fun (name, p) => (.alias name, p))
  else if c == '&' then
    s.keyLike? ((anchorName? (p.skip 1)).map fun (name, p) => (.anchor name, p))
  else if c == '!' then s.keyLike? (tag? inFlow p)
  else if c == '|' && !inFlow then s.blockScalar? false fuel
  else if c == '>' && !inFlow then s.blockScalar? true fuel
  else if c == '\'' || c == '"' then
    s.keyLike? ((quoted? c fuel (p.skip 1)).map fun (text, p) => (.scalar text false, p))
  else if startsPlain inFlow c cs then s.plainScalar? fuel
  else none

/-- Reads all tokens that are left. -/
def finish? : Nat → Layout → Option (List Token)
  | 0, _ => none
  | fuel + 1, s => do
    let s ← (s.skipToToken (fuel + 1)).dropStaleKeys?
    let s := s.closeBlocks s.place.column
    match s.place.rest with
    | [] => return (← (s.closeBlocks (-1)).forgetKey?).tokens.reverse
    | c :: cs => finish? fuel (← s.token? c cs (fuel + 1))

end Layout

/-- The tokens of a text. A byte order mark may stand at its start. -/
def tokens? (text : List Char) : Option (List Token) :=
  let text := match text with
    | c :: cs => if c.toNat == 0xFEFF then cs else text
    | [] => text
  if text.all isAllowed then (Layout.start text).finish? (text.length + 1) else none

end SchemaHistory.Yaml
