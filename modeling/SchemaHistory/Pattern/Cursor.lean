import SchemaHistory.Text.Blank
import SchemaHistory.Text.CaseFolding
import SchemaHistory.Text.Property
import SchemaHistory.Text.Script

/-!
Reading the parts of a pattern's text.

A cursor is what is left of the text with the flags that hold there. With the flag for free spacing,
blanks and comments, which run from `#` to the end of the line, stand between the parts of a pattern and
mean nothing. Here are the parts below the level of expressions: flags, numbers, code points, names of
sets.
-/

namespace SchemaHistory.Pattern

/-- The flags of a pattern. -/
structure Flags where
  anyCase : Bool
  multiLine : Bool
  dotAll : Bool
  swapGreed : Bool
  unicode : Bool
  crlf : Bool
  freeSpacing : Bool
  deriving Repr, DecidableEq

/-- The rest of a pattern's text. -/
structure Cursor where
  rest : List Char
  flags : Flags
  /-- The names given to groups so far. -/
  names : List (List Char)

/-! ### Blanks and comments -/

/-- Drops the blanks and comments at the start of a text. -/
def dropComments (inComment : Bool) : List Char → List Char
  | [] => []
  | c :: cs =>
    if inComment then dropComments (c != '\n') cs
    else if isBlank c then dropComments false cs
    else if c == '#' then dropComments true cs
    else c :: cs

namespace Cursor

/-- The same place without the blanks and comments, if spacing is free. -/
def skip (cur : Cursor) : Cursor :=
  if cur.flags.freeSpacing then { cur with rest := dropComments false cur.rest } else cur

/-- The place with another rest. -/
def goTo (cur : Cursor) (rest : List Char) : Cursor := { cur with rest := rest }

/-- The place with another rest, past the blanks and comments there. -/
def jumpTo (cur : Cursor) (rest : List Char) : Cursor := (cur.goTo rest).skip

/-- The character behind the first, past blanks if spacing is free. -/
def peek? (cur : Cursor) : Option Char :=
  match cur.rest with
  | [] => none
  | _ :: rest =>
    if cur.flags.freeSpacing then
      match trimStart rest with
      | '#' :: rest => (trimStart rest).head?
      | rest => rest.head?
    else rest.head?

end Cursor

/-! ### Flags -/

/-- The flag of a letter, as a way to switch it on or off. -/
def flag? (c : Char) : Option (Bool → Flags → Flags) :=
  match c with
  | 'i' => some fun b f => { f with anyCase := b }
  | 'm' => some fun b f => { f with multiLine := b }
  | 's' => some fun b f => { f with dotAll := b }
  | 'U' => some fun b f => { f with swapGreed := b }
  | 'u' => some fun b f => { f with unicode := b }
  | 'R' => some fun b f => { f with crlf := b }
  | 'x' => some fun b f => { f with freeSpacing := b }
  | _ => none

/-- The letters of a list of flags up to the colon or bracket that ends it, and what follows. -/
def flagLetters? : List Char → Option (List Char × Char × List Char)
  | [] => none
  | c :: cs =>
    if c == ':' || c == ')' then some ([], c, cs)
    else (flagLetters? cs).map fun (letters, stop, rest) => (c :: letters, stop, rest)

/-- Switches flags on, and off behind a minus sign. -/
def applyFlags? (on : Bool) (flags : Flags) : List Char → Option Flags
  | [] => some flags
  | '-' :: cs => if cs.isEmpty || !on then none else applyFlags? false flags cs
  | c :: cs => do applyFlags? on ((← flag? c) on flags) cs

/-- The flags after a list of letters, each of which may stand in it once. -/
def newFlags? (flags : Flags) (letters : List Char) : Option Flags :=
  if letters.eraseDups.length == letters.length then applyFlags? true flags letters else none

/-! ### Numbers -/

/-- The digits at the start of a text, and what follows, past free spacing between them. -/
def countDigits : Nat → Cursor → List Char × Cursor
  | 0, cur => ([], cur)
  | fuel + 1, cur =>
    match cur.rest with
    | c :: cs =>
      if '0' ≤ c && c ≤ '9' then
        let (digits, after) := countDigits fuel (cur.jumpTo cs)
        (c :: digits, after)
      else ([], cur)
    | [] => ([], cur)

/-- The number of a list of decimal digits. -/
def countValue (digits : List Char) : Nat := digits.foldl (fun n c => n * 10 + (c.toNat - 48)) 0

/-- A count, with blanks around it, below two to the thirty-two; `none` inside if there is no digit. -/
def count? (cur : Cursor) : Option (Option Nat × Cursor) :=
  let start := cur.goTo (trimStart cur.rest)
  let (digits, after) := countDigits (start.rest.length + 1) start
  let after := after.goTo (trimStart after.rest)
  if digits.isEmpty then some (none, after)
  else
    let n := countValue digits
    if n < UInt32.size then some (some n, after) else none

/-! ### Code points -/

/-- The value of a digit in base sixteen. -/
def hexDigit? (c : Char) : Option Nat :=
  if '0' ≤ c && c ≤ '9' then some (c.toNat - 48)
  else if 'a' ≤ c && c ≤ 'f' then some (c.toNat - 87)
  else if 'A' ≤ c && c ≤ 'F' then some (c.toNat - 55)
  else none

/-- The character of a list of digits in base sixteen. -/
def hexChar? (digits : List Nat) : Option Char :=
  let n := digits.foldl (fun m d => m * 16 + d) 0
  if digits.isEmpty || !(n < 0xD800 || (0xE000 ≤ n && n ≤ CharSet.lastCode)) then none
  else some (Char.ofNat n)

/-- A fixed number of digits in base sixteen. -/
def hexFixed? : Nat → Cursor → Option (List Nat × Cursor)
  | 0, cur => some ([], cur)
  | n + 1, cur => do
    let c :: cs := cur.rest | none
    let d ← hexDigit? c
    let (ds, after) ← hexFixed? n (cur.jumpTo cs)
    return (d :: ds, after)

/-- Digits in base sixteen up to a closing brace. -/
def hexBraced? : Nat → Cursor → Option (List Nat × Cursor)
  | 0, _ => none
  | fuel + 1, cur => do
    let c :: cs := cur.rest | none
    if c == '}' then return ([], cur.jumpTo cs)
    else
      let d ← hexDigit? c
      let (ds, after) ← hexBraced? fuel (cur.jumpTo cs)
      return (d :: ds, after)

/-- A code point behind the letter of its escape: `width` digits, or any number in braces. -/
def codePoint? (width : Nat) (cur : Cursor) : Option (Char × Bool × Cursor) := do
  match cur.rest with
  | '{' :: cs =>
    let (ds, after) ← hexBraced? (cs.length + 1) (cur.jumpTo cs)
    return (← hexChar? ds, false, after)
  | _ =>
    let (ds, after) ← hexFixed? width cur
    return (← hexChar? ds, true, after)

/-! ### Sets with a name -/

/-- A name in small letters without blanks, underscores and hyphens, and without an `is` in front. -/
def plainName (cs : List Char) : String :=
  let (isPart, body) := match cs with
    | i :: s :: rest =>
      if (i == 'i' || i == 'I') && (s == 's' || s == 'S') then (true, rest) else (false, cs)
    | _ => (false, cs)
  let plain := (body.filter fun c => c != ' ' && c != '_' && c != '-' && c.toNat < 128).map
    Char.toLower
  if isPart && plain == ['c'] then "isc" else String.ofList plain

/-- The characters of a property, a category or a script. -/
def namedSet? (name : String) : Option CharSet :=
  if name == "any" then some CharSet.all
  else if name == "assigned" then some CharSet.assigned
  else if name == "ascii" then some ⟨[(0, 127)]⟩
  else CharSet.property? name <|> CharSet.generalCategory? name <|> CharSet.script? name

/-- The characters for which a property with several values has one of them. -/
def valuedSet? (property value : String) : Option CharSet :=
  match property with
  | "gc" | "generalcategory" =>
    if value == "any" then some CharSet.all
    else if value == "assigned" then some CharSet.assigned
    else if value == "ascii" then some ⟨[(0, 127)]⟩
    else CharSet.generalCategory? value
  | "sc" | "script" => CharSet.script? value
  | "scx" | "scriptextensions" => CharSet.scriptExtensions? value
  | _ => none

/-- The characters that the text between the braces of a property escape names. -/
def propertySet? (text : List Char) : Option CharSet :=
  match cutAt ['!', '='] text with
  | some (property, value) => (valuedSet? (plainName property) (plainName value)).map (·.complement)
  | none =>
    match cutAt [':'] text <|> cutAt ['='] text with
    | some (property, value) => valuedSet? (plainName property) (plainName value)
    | none => namedSet? (plainName text)

/-- The text up to a closing brace, without free spacing. -/
def braced? : Nat → Cursor → Option (List Char × Cursor)
  | 0, _ => none
  | fuel + 1, cur => do
    let c :: cs := cur.rest | none
    if c == '}' then return ([], cur.goTo cs)
    else
      let (text, after) ← braced? fuel (cur.jumpTo cs)
      return (c :: text, after)

/-- The set of a property escape behind its letter: one letter, or a text in braces. -/
def property? (cur : Cursor) : Option (CharSet × Cursor) := do
  let c :: cs := cur.rest | none
  if c == '{' then
    let (text, after) ← braced? (cs.length + 1) (cur.jumpTo cs)
    return (← propertySet? text, after)
  else if c == '\\' then none
  else return (← namedSet? (plainName [c]), cur.jumpTo cs)

/-- The sets that are written between colons inside brackets. -/
def asciiSet? (name : String) : Option CharSet :=
  let ranges : Option (List (Nat × Nat)) := match name with
    | "alnum" => some [(48, 57), (65, 90), (97, 122)]
    | "alpha" => some [(65, 90), (97, 122)]
    | "ascii" => some [(0, 127)]
    | "blank" => some [(9, 9), (32, 32)]
    | "cntrl" => some [(0, 31), (127, 127)]
    | "digit" => some [(48, 57)]
    | "graph" => some [(33, 126)]
    | "lower" => some [(97, 122)]
    | "print" => some [(32, 126)]
    | "punct" => some [(33, 47), (58, 64), (91, 96), (123, 126)]
    | "space" => some [(9, 13), (32, 32)]
    | "upper" => some [(65, 90)]
    | "word" => some [(48, 57), (65, 90), (95, 95), (97, 122)]
    | "xdigit" => some [(48, 57), (65, 70), (97, 102)]
    | _ => none
  ranges.map fun r => ⟨r⟩

/-- The set of a word class: digits, blanks or the characters of words. -/
def wordClass? (unicode : Bool) (c : Char) : Option CharSet :=
  match c with
  | 'd' | 'D' => if unicode then CharSet.generalCategory? "nd" else asciiSet? "digit"
  | 's' | 'S' => if unicode then some blanks else asciiSet? "space"
  | 'w' | 'W' => if unicode then some CharSet.word else asciiSet? "word"
  | _ => none

/-- The characters that make up words. -/
def wordSet (unicode : Bool) : CharSet := (wordClass? unicode 'w').getD CharSet.empty

/-- The letters of a set in all their cases, if the flags ask for that. Without Unicode only the
letters of ASCII have cases. -/
def closeSet (flags : Flags) (s : CharSet) : CharSet :=
  if !flags.anyCase then s
  else if flags.unicode then s.closeCases
  else
    let small := s.inter ⟨[(97, 122)]⟩
    let capital := s.inter ⟨[(65, 90)]⟩
    CharSet.unions
      [s, ⟨small.ranges.map fun r => (r.1 - 32, r.2 - 32)⟩,
        ⟨capital.ranges.map fun r => (r.1 + 32, r.2 + 32)⟩]

/-- The set of one letter, in all its cases if the flags ask for that. -/
def letterSet (flags : Flags) (c : Char) : CharSet :=
  if !flags.anyCase then .single c
  else if flags.unicode then .ofRanges ((casesOf c.toNat).map fun n => (n, n))
  else closeSet flags (.single c)

end SchemaHistory.Pattern
