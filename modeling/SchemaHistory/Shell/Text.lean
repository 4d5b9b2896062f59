import SchemaHistory.Shell.State

/-!
The programs of the shell that write text.
-/

namespace SchemaHistory.Shell

/-- The value of digits in base eight. -/
def octalValue (cs : List Char) : Nat := cs.foldl (fun n c => n * 8 + (c.toNat - 48)) 0

/-- Whether a character is an octal digit. -/
def isOctal (c : Char) : Bool := '0' ≤ c && c ≤ '7'

/-- What a letter behind a backslash stands for. -/
def escapedChar? (c : Char) : Option Char :=
  match c with
  | 'a' => some (Char.ofNat 7)
  | 'b' => some (Char.ofNat 8)
  | 'f' => some (Char.ofNat 12)
  | 'n' => some '\n'
  | 'r' => some '\r'
  | 't' => some '\t'
  | 'v' => some (Char.ofNat 11)
  | '\\' => some '\\'
  | _ => none

/-- A text whose escapes have been read, and whether it ends all output. -/
structure Unescaped where
  bytes : Bytes
  stops : Bool

/-- Reads the escapes of a text. -/
def unescape : Nat → List Char → Unescaped
  | 0, _ => ⟨[], false⟩
  | fuel + 1, cs =>
    let add (b : Bytes) (rest : List Char) : Unescaped :=
      let u := unescape fuel rest
      ⟨b ++ u.bytes, u.stops⟩
    match cs with
    | [] => ⟨[], false⟩
    | '\\' :: c :: rest =>
      if c == 'c' then ⟨[], true⟩
      else if isOctal c then
        let digits := (if c == '0' then rest else c :: rest).takeWhile isOctal |>.take 3
        add [UInt8.ofNat (octalValue digits)] ((if c == '0' then rest else c :: rest).drop digits.length)
      else
        match escapedChar? c with
        | some d => add (.ofString (String.singleton d)) rest
        | none => add (.ofString (String.ofList ['\\', c])) rest
    | c :: rest => add (.ofString (String.singleton c)) rest

/-- The text of a list, escapes read or not, with a line end unless `-n` stands first. -/
def echo (escapes : Bool) (arguments : List String) (s : State) : State :=
  let (ended, arguments) := match arguments with
    | "-n" :: rest => (false, rest)
    | _ => (true, arguments)
  let text := " ".intercalate arguments
  let u := if escapes then unescape (text.length + 1) text.toList else ⟨.ofString text, false⟩
  (s.write (u.bytes ++ if ended && !u.stops then Bytes.ofString "\n" else [])).withStatus 0

/-! ### Formats -/

/-- A part of a format. -/
inductive Piece where
  | text (bytes : Bytes)
  | argument (left zeros : Bool) (width : Nat) (precision : Option Nat) (conversion : Char)

/-- The pieces of a format. -/
def pieces? : Nat → List Char → Option (List Piece)
  | 0, _ => none
  | fuel + 1, cs =>
    match cs with
    | [] => some []
    | '%' :: '%' :: rest => (pieces? fuel rest).map (.text (.ofString "%") :: ·)
    | '%' :: rest =>
      let flags := rest.takeWhile fun c => c == '-' || c == '0' || c == ' ' || c == '+' || c == '#'
      let rest := rest.drop flags.length
      let width := rest.takeWhile Char.isDigit
      let rest := rest.drop width.length
      let precision := match rest with
        | '.' :: more => some (more.takeWhile Char.isDigit)
        | _ => none
      let rest := rest.drop ((precision.map (·.length + 1)).getD 0)
      match rest with
      | c :: rest =>
        if "sbdiucxXo".toList.contains c then
          (pieces? fuel rest).map
            (.argument (flags.contains '-') (flags.contains '0') ((String.ofList width).toNat?.getD 0)
              (precision.map fun p => (String.ofList p).toNat?.getD 0) c :: ·)
        else none
      | [] => none
    | '\\' :: c :: rest =>
      if isOctal c then
        let digits := ((c :: rest).takeWhile isOctal).take 3
        (pieces? fuel ((c :: rest).drop digits.length)).map
          (.text [UInt8.ofNat (octalValue digits)] :: ·)
      else
        let text := match escapedChar? c with
          | some d => [d]
          | none => if c == '"' then [c] else ['\\', c]
        (pieces? fuel rest).map (.text (.ofString (String.ofList text)) :: ·)
    | c :: rest => (pieces? fuel rest).map (.text (.ofString (String.singleton c)) :: ·)

/-- A number as an argument. -/
def numberOf (argument : String) : Int :=
  match argument.toList with
  | '+' :: rest => ((String.ofList rest).toNat?.getD 0 : Nat)
  | _ => argument.toInt?.getD 0

/-- A text brought to a width. -/
def padded (left zeros : Bool) (width : Nat) (text : List Char) : List Char :=
  let gap := width - text.length
  if left then text ++ List.replicate gap ' '
  else if zeros then List.replicate gap '0' ++ text
  else List.replicate gap ' ' ++ text

/-- What a piece of a format writes for an argument. -/
def Piece.bytes (argument : String) : Piece → Unescaped
  | .text b => ⟨b, false⟩
  | .argument left zeros width precision conversion =>
    let fit (text : List Char) : List Char := match precision with
      | some n => text.take n
      | none => text
    let write (zeros : Bool) (text : List Char) : Unescaped :=
      ⟨.ofString (String.ofList (padded left zeros width text)), false⟩
    match conversion with
    | 's' => write false (fit argument.toList)
    | 'b' => unescape (argument.length + 1) argument.toList
    | 'c' => write false (argument.toList.take 1)
    | 'x' => write zeros (Nat.toDigits 16 (numberOf argument).toNat)
    | 'X' => write zeros ((Nat.toDigits 16 (numberOf argument).toNat).map Char.toUpper)
    | 'o' => write zeros (Nat.toDigits 8 (numberOf argument).toNat)
    | _ => write zeros (toString (numberOf argument)).toList

/-- Writes a format once, and gives the arguments that are left. -/
def writeFormat : List Piece → List String → Unescaped × List String
  | [], arguments => (⟨[], false⟩, arguments)
  | .text b :: rest, arguments =>
    let (u, left) := writeFormat rest arguments
    (⟨b ++ u.bytes, u.stops⟩, left)
  | piece :: rest, arguments =>
    let now := piece.bytes (arguments.headD "")
    if now.stops then (now, [])
    else
      let (u, left) := writeFormat rest (arguments.drop 1)
      (⟨now.bytes ++ u.bytes, u.stops⟩, left)

/-- Writes a format as often as there are arguments for it, at least once. -/
def writeFormats (format : List Piece) : Nat → List String → Bytes
  | 0, _ => []
  | fuel + 1, arguments =>
    let (u, left) := writeFormat format arguments
    if u.stops || left.isEmpty || left.length == arguments.length then u.bytes
    else u.bytes ++ writeFormats format fuel left

/-- Writes arguments in a format. -/
def printFormat (arguments : List String) (s : State) : State :=
  let arguments := match arguments with
    | "--" :: rest => rest
    | _ => arguments
  match arguments with
  | [] => (s.complain (s.message "printf: usage: printf format [arg ...]")).withStatus 2
  | format :: arguments =>
    match pieces? (format.length + 1) format.toList with
    | some format => (s.write (writeFormats format (arguments.length + 1) arguments)).withStatus 0
    | none => (s.complain (s.message ("printf: " ++ format ++ ": invalid directive"))).withStatus 2

end SchemaHistory.Shell
