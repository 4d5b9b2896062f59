/-!
The tokens of a shell script.

Blanks separate words, and line ends and the signs of the shell separate words too. Quotes and backslashes
take the meaning from the characters they protect. A dollar sign starts the name of a parameter. A
script in which a quotation does not end has no tokens, and neither has one with a command in back quotes
or behind a dollar sign.
-/

namespace SchemaHistory.Shell

/-- A part of a word. -/
inductive Part where
  | text (chars : List Char) (quoted : Bool)
  | parameter (name : String) (quoted : Bool)
  deriving Repr, DecidableEq

/-- A word, which may consist of several parts. -/
abbrev Word := List Part

/-- A token. -/
inductive Token where
  | word (w : Word)
  /-- A number right before a redirection. -/
  | descriptor (n : Nat)
  | sign (text : String)
  deriving Repr, DecidableEq

/-- The signs, no one before a longer one that it starts. -/
def signs : List String :=
  ["&&", "||", ";;", ">>", ">&", "<&", ">", "<", "&", "|", ";", "(", ")", "\n"]

/-- The sign at the start of a text. -/
def sign? (cs : List Char) : Option String := signs.find? fun s => s.toList.isPrefixOf cs

/-- Whether a character is a blank that separates words. -/
def isSpace (c : Char) : Bool := c == ' ' || c == '\t'

/-- Whether a name can start with a character. -/
def isNameStart (c : Char) : Bool := c.isAlpha || c == '_'

/-- Whether a name can go on with a character. -/
def isNameRest (c : Char) : Bool := c.isAlphanum || c == '_'

/-- Whether a character alone names a parameter. -/
def isSpecial (c : Char) : Bool := c.isDigit || "@*#?$!-".toList.contains c

/-- Adds a character to the words' parts so far, the last part first. -/
def addChar (c : Char) (quoted : Bool) : List Part → List Part
  | .text chars q :: rest =>
    if q == quoted then .text (chars ++ [c]) q :: rest else .text [c] quoted :: .text chars q :: rest
  | parts => .text [c] quoted :: parts

/-- Reads what a dollar sign stands for: a parameter and the text behind it, or the sign itself. -/
def dollar? (quoted : Bool) (cs : List Char) : Option (Part × List Char) :=
  match cs with
  | '(' :: _ => none
  | '{' :: rest =>
    let name := rest.takeWhile (· != '}')
    let valid := match name with
      | [] => false
      | c :: more => (isNameStart c && more.all isNameRest) || (isSpecial c && more.all Char.isDigit)
    match rest.drop name.length with
    | '}' :: after => if valid then some (.parameter (String.ofList name) quoted, after) else none
    | _ => none
  | c :: rest =>
    if isNameStart c then
      let name := c :: rest.takeWhile isNameRest
      some (.parameter (String.ofList name) quoted, cs.drop name.length)
    else if isSpecial c then some (.parameter (String.ofList [c]) quoted, rest)
    else some (.text ['$'] quoted, cs)
  | [] => some (.text ['$'] quoted, [])

/-- Reads a text in double quotes behind its opening quote. `parts` are the parts so far, the last one
first. -/
def doubleQuoted? : Nat → List Char → List Part → Option (List Part × List Char)
  | 0, _, _ => none
  | fuel + 1, cs, parts =>
    match cs with
    | [] => none
    | c :: rest =>
      if c == '"' then some (parts, rest)
      else if c.toNat == 0x60 then none
      else if c == '$' then
        match dollar? true rest with
        | some (part, after) => doubleQuoted? fuel after (part :: parts)
        | none => none
      else if c == '\\' then
        match rest with
        | d :: after =>
          if d == '\n' then doubleQuoted? fuel after parts
          else if "$\"\\".toList.contains d || d.toNat == 0x60 then
            doubleQuoted? fuel after (addChar d true parts)
          else doubleQuoted? fuel after (addChar d true (addChar c true parts))
        | [] => none
      else doubleQuoted? fuel rest (addChar c true parts)

/-- Reads a word up to the blank or the sign behind it. -/
def word? : Nat → List Char → List Part → Option (Word × List Char)
  | 0, _, _ => none
  | fuel + 1, cs, parts =>
    match cs with
    | [] => some (parts.reverse, [])
    | c :: rest =>
      if isSpace c || (sign? cs).isSome then some (parts.reverse, cs)
      else if c.toNat == 0x60 then none
      else if c == '\'' then
        let chars := rest.takeWhile (· != '\'')
        match rest.drop chars.length with
        | _ :: after => word? fuel after (.text chars true :: parts)
        | [] => none
      else if c == '"' then
        match doubleQuoted? (rest.length + 1) rest (.text [] true :: parts) with
        | some (parts, after) => word? fuel after parts
        | none => none
      else if c == '$' then
        match dollar? false rest with
        | some (part, after) => word? fuel after (part :: parts)
        | none => none
      else if c == '\\' then
        match rest with
        | '\n' :: after => word? fuel after parts
        | d :: after => word? fuel after (addChar d true parts)
        | [] => word? fuel [] (addChar c true parts)
      else word? fuel rest (addChar c false parts)

/-- The number that a word of digits is, right before a redirection. -/
def descriptor? (w : Word) (after : List Char) : Option Nat :=
  match w, after with
  | [.text chars false], c :: _ =>
    if (c == '<' || c == '>') && chars.all Char.isDigit then (String.ofList chars).toNat? else none
  | _, _ => none

/-- The tokens of the rest of a script. -/
def tokensFrom? : Nat → List Char → Option (List Token)
  | 0, _ => none
  | fuel + 1, cs =>
    match cs with
    | [] => some []
    | c :: rest =>
      if isSpace c then tokensFrom? fuel rest
      else if c == '#' then tokensFrom? fuel (rest.dropWhile (· != '\n'))
      else if c == '\\' && rest.head? == some '\n' then tokensFrom? fuel (rest.drop 1)
      else
        match sign? cs with
        | some s => (tokensFrom? fuel (cs.drop s.length)).map (.sign s :: ·)
        | none =>
          match word? (cs.length + 1) cs [] with
          | none => none
          | some (w, after) =>
            let token := match descriptor? w after with
              | some n => .descriptor n
              | none => .word w
            (tokensFrom? fuel after).map (token :: ·)

/-- The tokens of a script. -/
def tokens? (script : String) : Option (List Token) :=
  let cs := script.toList
  tokensFrom? (cs.length + 1) cs

end SchemaHistory.Shell
