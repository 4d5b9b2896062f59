import SchemaHistory.Shell.Token

/-!
The commands of a shell script.
-/

namespace SchemaHistory.Shell

/-- What a redirection does with a descriptor. -/
inductive Redirection where
  | fromFile (descriptor : Nat) (path : Word)
  | toFile (descriptor : Nat) (path : Word) (atEnd : Bool)
  | copyOf (descriptor : Nat) (other : Word)
  deriving Repr

/-- A command. -/
inductive Command where
  | nothing
  | simple (assignments : List (String × Word)) (words : List Word) (redirections : List Redirection)
  | redirected (body : Command) (redirections : List Redirection)
  | subshell (body : Command)
  | sequence (first second : Command)
  | both (first second : Command)
  | either (first second : Command)
  | negation (body : Command)
  | pipe (first second : Command)
  | conditional (test yes no : Command)
  | each (name : String) (words : List Word) (body : Command)
  deriving Repr, Inhabited

/-- The text of a word that nothing protects. -/
def plainText? : Token → Option String
  | .word [.text chars false] => some (String.ofList chars)
  | _ => none

/-- Whether a token is a word of the language. -/
def isReserved (t : Token) : Bool :=
  match plainText? t with
  | some s => ["then", "else", "elif", "fi", "do", "done", "\x7d"].contains s
  | none => false

/-- Drops the line ends at the start. -/
def skipLines (ts : List Token) : List Token := ts.dropWhile (· == .sign "\n")

/-- Drops a reserved word that must stand at the start. -/
def expect? (s : String) : List Token → Option (List Token)
  | t :: rest => if plainText? t == some s then some rest else none
  | [] => none

/-- The name and the value of an assignment. -/
def assignment? : Word → Option (String × Word)
  | .text chars false :: more =>
    let name := chars.takeWhile isNameRest
    match name, chars.drop name.length with
    | c :: _, '=' :: value =>
      if isNameStart c then
        some (String.ofList name, (if value.isEmpty then [] else [.text value false]) ++ more)
      else none
    | _, _ => none
  | _ => none

/-- Reads a redirection. -/
def redirection? (ts : List Token) : Option (Redirection × List Token) :=
  let (given, ts) := match ts with
    | .descriptor n :: rest => (some n, rest)
    | _ => (none, ts)
  match ts with
  | .sign s :: .word w :: rest =>
    match s with
    | ">" => some (.toFile (given.getD 1) w false, rest)
    | ">>" => some (.toFile (given.getD 1) w true, rest)
    | "<" => some (.fromFile (given.getD 0) w, rest)
    | ">&" => some (.copyOf (given.getD 1) w, rest)
    | "<&" => some (.copyOf (given.getD 0) w, rest)
    | _ => none
  | _ => none

/-- Whether a redirection starts here. -/
def startsRedirection : List Token → Bool
  | .descriptor _ :: _ => true
  | .sign s :: _ => [">", ">>", "<", ">&", "<&"].contains s
  | _ => false

/-- Reads the redirections behind a command. -/
def redirections? : Nat → List Token → Option (List Redirection × List Token)
  | 0, _ => none
  | fuel + 1, ts =>
    if startsRedirection ts then do
      let (r, ts) ← redirection? ts
      let (rs, ts) ← redirections? fuel ts
      return (r :: rs, ts)
    else some ([], ts)

/-- Reads the words and the redirections of a simple command. -/
def simpleParts? : Nat → List Token → Option (List Word × List Redirection × List Token)
  | 0, _ => none
  | fuel + 1, ts =>
    if startsRedirection ts then do
      let (r, ts) ← redirection? ts
      let (ws, rs, ts) ← simpleParts? fuel ts
      return (ws, r :: rs, ts)
    else
      match ts with
      | .word w :: ts => do
        let (ws, rs, ts) ← simpleParts? fuel ts
        return (w :: ws, rs, ts)
      | _ => some ([], [], ts)

/-- Reads a simple command. -/
def simple? (ts : List Token) : Option (Command × List Token) := do
  let (ws, rs, rest) ← simpleParts? (ts.length + 1) ts
  if ws.isEmpty && rs.isEmpty then none
  else
    let assignments := (ws.map assignment?).takeWhile Option.isSome
    return (.simple (assignments.filterMap id) (ws.drop assignments.length) rs, rest)

/-- The words up to the end of the line. -/
def wordsOfLine : List Token → List Word × List Token
  | .word w :: rest => let (ws, rest) := wordsOfLine rest; (w :: ws, rest)
  | ts => ([], ts)

mutual

/-- Reads commands up to a reserved word, a closing parenthesis or the end. -/
def list? : Nat → List Token → Option (Command × List Token)
  | 0, _ => none
  | fuel + 1, ts =>
    let ts := skipLines ts
    match ts with
    | [] => some (.nothing, [])
    | .sign ")" :: _ => some (.nothing, ts)
    | t :: _ =>
      if isReserved t then some (.nothing, ts)
      else do
        let (c, ts) ← chain? fuel ts
        match ts with
        | .sign s :: rest =>
          if s == ";" || s == "&" || s == "\n" then do
            let (more, ts) ← list? fuel rest
            return (.sequence c more, ts)
          else if s == ")" then return (c, ts)
          else none
        | _ => return (c, ts)

/-- Reads pipelines that depend on one another. -/
def chain? : Nat → List Token → Option (Command × List Token)
  | 0, _ => none
  | fuel + 1, ts => do
    let (c, ts) ← pipeline? fuel ts
    links? fuel c ts

/-- Reads on behind the first pipelines of a chain. -/
def links? : Nat → Command → List Token → Option (Command × List Token)
  | 0, _, _ => none
  | fuel + 1, c, ts =>
    match ts with
    | .sign "&&" :: rest => do
      let (d, ts) ← pipeline? fuel (skipLines rest)
      links? fuel (.both c d) ts
    | .sign "||" :: rest => do
      let (d, ts) ← pipeline? fuel (skipLines rest)
      links? fuel (.either c d) ts
    | _ => some (c, ts)

/-- Reads a pipeline, which may be negated. -/
def pipeline? : Nat → List Token → Option (Command × List Token)
  | 0, _ => none
  | fuel + 1, ts =>
    match expect? "!" ts with
    | some rest => do
      let (c, ts) ← pipeline? fuel rest
      return (.negation c, ts)
    | none => do
      let (c, ts) ← command? fuel ts
      match ts with
      | .sign "|" :: rest => do
        let (d, ts) ← pipeline? fuel (skipLines rest)
        return (.pipe c d, ts)
      | _ => return (c, ts)

/-- Reads a command. -/
def command? : Nat → List Token → Option (Command × List Token)
  | 0, _ => none
  | fuel + 1, ts =>
    match ts with
    | [] => none
    | .sign "(" :: rest => do
      let (c, ts) ← list? fuel rest
      let .sign ")" :: ts := ts | none
      let (rs, ts) ← redirections? (ts.length + 1) ts
      return (.redirected (.subshell c) rs, ts)
    | t :: rest =>
      match plainText? t with
      | some "\x7b" => do
        let (c, ts) ← list? fuel rest
        let (rs, ts) ← redirections? (ts.length + 1) (← expect? "\x7d" ts)
        return (.redirected c rs, ts)
      | some "if" => do
        let (c, ts) ← branches? fuel rest
        let (rs, ts) ← redirections? (ts.length + 1) ts
        return (.redirected c rs, ts)
      | some "for" => do
        let name :: ts := rest | none
        let name ← plainText? name
        let (ws, ts) := wordsOfLine (← expect? "in" ts)
        let .sign s :: ts := ts | none
        if s != ";" && s != "\n" then none
        else
          let (body, ts) ← list? fuel (← expect? "do" (skipLines ts))
          let (rs, ts) ← redirections? (ts.length + 1) (← expect? "done" ts)
          return (.redirected (.each name ws body) rs, ts)
      | _ => if isReserved t then none else simple? ts

/-- Reads a conditional behind its first word, up to and past its last one. -/
def branches? : Nat → List Token → Option (Command × List Token)
  | 0, _ => none
  | fuel + 1, ts => do
    let (test, ts) ← list? fuel ts
    let (yes, ts) ← list? fuel (← expect? "then" ts)
    match ts with
    | [] => none
    | t :: rest =>
      match plainText? t with
      | some "fi" => return (.conditional test yes .nothing, rest)
      | some "else" => do
        let (no, ts) ← list? fuel rest
        return (.conditional test yes no, ← expect? "fi" ts)
      | some "elif" => do
        let (no, ts) ← branches? fuel rest
        return (.conditional test yes no, ts)
      | _ => none

end

/-- The command that a script is. -/
def Command.parse? (script : String) : Option Command := do
  let ts ← tokens? script
  let (c, rest) ← list? (8 * ts.length + 8) ts
  if rest.isEmpty then some c else none

end SchemaHistory.Shell
