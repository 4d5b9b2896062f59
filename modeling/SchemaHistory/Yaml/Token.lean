import SchemaHistory.Yaml.Scalar

/-!
The tokens of a YAML text.

Besides the indicators and scalars that stand in the text there are tokens for what its layout says:
where a block collection starts and ends, and that what follows is the key of a mapping.
-/

namespace SchemaHistory.Yaml

/-- A token. -/
inductive Token where
  | versionDirective (major minor : Nat)
  | tagDirective (handle : List Char)
  | documentStart | documentEnd
  | blockSequenceStart | blockMappingStart | blockEnd
  | flowSequenceStart | flowSequenceEnd | flowMappingStart | flowMappingEnd
  | blockEntry | flowEntry | key | value
  | anchor (name : List Char)
  | alias (name : List Char)
  | tag (handle suffix : List Char)
  | scalar (text : List Char) (isPlain : Bool)
  deriving Repr, DecidableEq

/-! ### Anchors and tags -/

/-- Reads the name of an anchor or an alias behind its indicator. -/
def anchorName? (p : Place) : Option (List Char × Place) :=
  let name := p.rest.takeWhile isNameChar
  let p := p.skip name.length
  let ends := atGap p.rest ||
    ((p.rest.head?.map fun c => "?:,]\x7d%@".toList.contains c || c.toNat == 0x60).getD false)
  if name.isEmpty || !ends then none else some (name, p)

/-- Whether a character may stand in the suffix of a tag. -/
def isTagChar (verbatim : Bool) (c : Char) : Bool :=
  isNameChar c || ";/?:@&=+$.!~*'()".toList.contains c || (verbatim && ",[]".toList.contains c)

/-- How many bytes a character has in UTF-8, by the first of them. -/
def byteWidth? (first : Nat) : Option Nat :=
  if first < 0x80 then some 1
  else if 0xC0 ≤ first && first < 0xE0 then some 2
  else if 0xE0 ≤ first && first < 0xF0 then some 3
  else if 0xF0 ≤ first && first < 0xF8 then some 4
  else none

/-- The value of an octet that is written as a percent sign and two digits. -/
def octet? : List Char → Option Nat
  | '%' :: a :: b :: _ => do return (← hexDigit? a) * 16 + (← hexDigit? b)
  | _ => none

/-- The length of the octets at the start of a text that make up one character. -/
def escapedLength? (cs : List Char) : Option Nat := do
  let width ← byteWidth? (← octet? cs)
  let others ← (List.range (width - 1)).mapM fun i => octet? (cs.drop (3 * (i + 1)))
  if others.all fun n => n / 64 == 2 then return 3 * width else none

/-- Reads the suffix of a tag. -/
def tagSuffix? (verbatim : Bool) : Nat → Place → Option (List Char × Place)
  | 0, _ => none
  | fuel + 1, p =>
    match p.rest with
    | [] => some ([], p)
    | c :: cs =>
      if c == '%' then do
        let n ← escapedLength? (c :: cs)
        let (suffix, after) ← tagSuffix? verbatim fuel (p.skip n)
        return ((c :: cs).take n ++ suffix, after)
      else if isTagChar verbatim c then
        (tagSuffix? verbatim fuel (p.skip 1)).map fun (suffix, after) => (c :: suffix, after)
      else some ([], p)

/-- Reads a suffix that must not be empty. -/
def tagSuffix1? (verbatim : Bool) (p : Place) : Option (List Char × Place) :=
  (tagSuffix? verbatim (p.rest.length + 1) p).filter fun (suffix, _) => !suffix.isEmpty

/-- The handle at the start of a text: an exclamation mark, name characters and, if there is one,
another exclamation mark. -/
def tagHandle? (p : Place) : Option (List Char × Place) :=
  match p.rest with
  | '!' :: cs =>
    let name := cs.takeWhile isNameChar
    let closing := if (cs.drop name.length).head? == some '!' then ['!'] else []
    let handle := '!' :: name ++ closing
    some (handle, p.skip handle.length)
  | _ => none

/-- Reads a tag at its exclamation mark. -/
def tag? (inFlow : Bool) (p : Place) : Option (Token × Place) := do
  let (token, after) ← match p.rest with
    | '!' :: '<' :: _ => do
      let (suffix, after) ← tagSuffix1? true (p.skip 2)
      if after.rest.head? == some '>' then some (Token.tag [] suffix, after.skip 1) else none
    | _ => do
      let (handle, after) ← tagHandle? p
      if handle.length > 1 && handle.getLast? == some '!' then
        let (suffix, after) ← tagSuffix1? false after
        return (Token.tag handle suffix, after)
      else
        let (suffix, after) ← tagSuffix? false (after.rest.length + 1) after
        let suffix := handle.drop 1 ++ suffix
        if suffix.isEmpty then return (Token.tag [] ['!'], after)
        else return (Token.tag ['!'] suffix, after)
  if atGap after.rest || (inFlow && after.rest.head? == some ',') then return (token, after) else none

/-! ### Directives -/

/-- Reads a number of at most nine digits. -/
def versionNumber? (p : Place) : Option (Nat × Place) :=
  let digits := p.rest.takeWhile Char.isDigit
  if digits.isEmpty || digits.length > 9 then none
  else some (digits.foldl (fun n c => n * 10 + (c.toNat - 48)) 0, p.skip digits.length)

/-- Reads a directive behind its percent sign, up to the end of the line. -/
def directive? (p : Place) : Option (Token × Place) := do
  let name := p.rest.takeWhile isNameChar
  let p := p.skip name.length
  if !atGap p.rest then none
  else
    let p := p.skipWhile isGap
    let (token, p) ← match String.ofList name with
      | "YAML" => do
        let (major, p) ← versionNumber? p
        let '.' :: _ := p.rest | none
        let (minor, p) ← versionNumber? (p.skip 1)
        some (Token.versionDirective major minor, p)
      | "TAG" => do
        let (handle, p) ← tagHandle? p
        if handle != ['!'] && (handle.length < 2 || handle.getLast? != some '!') then none
        else if !((p.rest.head?.map isGap).getD false) then none
        else
          let (_, p) ← tagSuffix1? true (p.skipWhile isGap)
          if atGap p.rest then some (Token.tagDirective handle, p) else none
      | _ => none
    return (token, ← p.endOfLine?)

end SchemaHistory.Yaml
