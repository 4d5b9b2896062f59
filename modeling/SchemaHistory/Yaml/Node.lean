import SchemaHistory.Yaml.Layout

/-!
The document of a YAML text.

A text holds one document or none. A document is one node: a scalar, a sequence or a mapping; a node that
is left out is an empty plain scalar. Anchors and aliases are resolved: an alias is the node with its
anchor, which must stand before it and be complete. What the tags say about nodes is of no interest here,
but their handles must be known.
-/

namespace SchemaHistory.Yaml

/-- A node of a document. -/
inductive Node where
  | scalar (text : String) (isPlain : Bool)
  | sequence (items : List Node)
  | mapping (entries : List (Node × Node))
  deriving Repr, Inhabited

namespace Node

/-- The node that is left out. -/
def missing : Node := scalar "" true

end Node

/-- What is left of the tokens, with the handles of tags and the nodes with anchors so far. -/
structure Reading where
  rest : List Token
  handles : List (List Char)
  /-- The named nodes, the last one first; a node that is not complete is `none`. -/
  anchors : List (List Char × Option Node)

namespace Reading

/-- The token at hand. -/
def next? (r : Reading) : Option Token := r.rest.head?

/-- Goes past the token at hand. -/
def advance (r : Reading) : Reading := { r with rest := r.rest.drop 1 }

/-- Names a node, or a node that is still to be completed. -/
def name (r : Reading) (anchor : Option (List Char)) (node : Option Node) : Reading :=
  match anchor with
  | some a => { r with anchors := (a, node) :: r.anchors }
  | none => r

/-- The node that an alias stands for. -/
def find? (r : Reading) (anchor : List Char) : Option Node := (r.anchors.lookup anchor).join

/-- Whether the next token is one of a list. -/
def at_ (r : Reading) (l : List Token) : Bool := (r.next?.map l.contains).getD false

/-- Whether the next token is one of a list, or there is none. -/
def ends (r : Reading) (l : List Token) : Bool := (r.next?.map l.contains).getD true

/-- The anchor and the tag before a node, in either order; whether there is either. -/
def properties? (r : Reading) : Option (Option (List Char) × Bool × Reading) :=
  let known := fun (handle : List Char) => handle.isEmpty || r.handles.contains handle
  match r.rest with
  | .anchor a :: .tag handle _ :: rest =>
    if known handle then some (some a, true, { r with rest := rest }) else none
  | .anchor a :: rest => some (some a, true, { r with rest := rest })
  | .tag handle _ :: .anchor a :: rest =>
    if known handle then some (some a, true, { r with rest := rest }) else none
  | .tag handle _ :: rest =>
    if known handle then some (none, true, { r with rest := rest }) else none
  | _ => some (none, false, r)

end Reading

mutual

/-- Reads a node. In a block, block collections may start; as a key or a value, a sequence may also
start without being indented. -/
def node? : Nat → (inBlock indentless : Bool) → Reading → Option (Node × Reading)
  | 0, _, _, _ => none
  | fuel + 1, inBlock, indentless, r =>
    match r.next? with
    | some (.alias a) => (r.find? a).map fun node => (node, r.advance)
    | _ => do
      let (anchor, marked, r) ← r.properties?
      let start := r.name anchor none
      let (node, after) ← match r.next? with
        | some (.scalar text isPlain) => some (.scalar (String.ofList text) isPlain, r.advance)
        | some .flowSequenceStart => flowItems? fuel true start.advance
        | some .flowMappingStart => flowEntries? fuel true start.advance
        | some .blockEntry =>
          if indentless then bareItems? fuel start
          else if marked then some (.missing, r) else none
        | some .blockSequenceStart =>
          if inBlock then blockItems? fuel start.advance
          else if marked then some (.missing, r) else none
        | some .blockMappingStart =>
          if inBlock then blockEntries? fuel start.advance
          else if marked then some (.missing, r) else none
        | _ => if marked then some (.missing, r) else none
      return (node, after.name anchor (some node))

/-- Reads a node unless one of some tokens stands in its place. -/
def nodeUnless? : Nat → (inBlock indentless : Bool) → List Token → Reading → Option (Node × Reading)
  | 0, _, _, _, _ => none
  | fuel + 1, inBlock, indentless, stops, r =>
    if r.at_ stops then some (.missing, r) else node? fuel inBlock indentless r

/-- Reads the entries of a block sequence to its end. -/
def blockItems? : Nat → Reading → Option (Node × Reading)
  | 0, _ => none
  | fuel + 1, r =>
    match r.next? with
    | some .blockEnd => some (.sequence [], r.advance)
    | some .blockEntry => do
      let (item, r) ← nodeUnless? fuel true false [.blockEntry, .blockEnd] r.advance
      let (.sequence items, r) ← blockItems? fuel r | none
      return (.sequence (item :: items), r)
    | _ => none

/-- Reads the entries of a sequence that is not indented. -/
def bareItems? : Nat → Reading → Option (Node × Reading)
  | 0, _ => none
  | fuel + 1, r =>
    match r.next? with
    | some .blockEntry => do
      let (item, r) ← nodeUnless? fuel true false [.blockEntry, .key, .value, .blockEnd] r.advance
      let (.sequence items, r) ← bareItems? fuel r | none
      return (.sequence (item :: items), r)
    | _ => some (.sequence [], r)

/-- Reads the entries of a block mapping to its end. -/
def blockEntries? : Nat → Reading → Option (Node × Reading)
  | 0, _ => none
  | fuel + 1, r =>
    match r.next? with
    | some .blockEnd => some (.mapping [], r.advance)
    | some .key => do
      let stops := [.key, .value, .blockEnd]
      let (key, r) ← nodeUnless? fuel true true stops r.advance
      let (value, r) ← match r.next? with
        | some .value => nodeUnless? fuel true true stops r.advance
        | _ => some (.missing, r)
      let (.mapping entries, r) ← blockEntries? fuel r | none
      return (.mapping ((key, value) :: entries), r)
    | _ => none

/-- Reads the entries of a flow sequence to its end. An entry with a key is a mapping of one entry. -/
def flowItems? : Nat → (first : Bool) → Reading → Option (Node × Reading)
  | 0, _, _ => none
  | fuel + 1, first, r =>
    match r.next? with
    | some .flowSequenceEnd => some (.sequence [], r.advance)
    | _ => do
      let r ← if first then some r else if r.next? == some .flowEntry then some r.advance else none
      match r.next? with
      | some .flowSequenceEnd => return (.sequence [], r.advance)
      | some .key =>
        let stops := [.value, .flowEntry, .flowSequenceEnd]
        let (key, r) ← nodeUnless? fuel false false stops r.advance
        let (value, r) ← match r.next? with
          | some .value => nodeUnless? fuel false false [.flowEntry, .flowSequenceEnd] r.advance
          | _ => some (.missing, r)
        let (.sequence items, r) ← flowItems? fuel false r | none
        return (.sequence (.mapping [(key, value)] :: items), r)
      | _ =>
        let (item, r) ← node? fuel false false r
        let (.sequence items, r) ← flowItems? fuel false r | none
        return (.sequence (item :: items), r)

/-- Reads the entries of a flow mapping to its end. -/
def flowEntries? : Nat → (first : Bool) → Reading → Option (Node × Reading)
  | 0, _, _ => none
  | fuel + 1, first, r =>
    match r.next? with
    | some .flowMappingEnd => some (.mapping [], r.advance)
    | _ => do
      let r ← if first then some r else if r.next? == some .flowEntry then some r.advance else none
      match r.next? with
      | some .flowMappingEnd => return (.mapping [], r.advance)
      | some .key =>
        let stops := [.value, .flowEntry, .flowMappingEnd]
        let (key, r) ← nodeUnless? fuel false false stops r.advance
        let (value, r) ← match r.next? with
          | some .value => nodeUnless? fuel false false [.flowEntry, .flowMappingEnd] r.advance
          | _ => some (.missing, r)
        let (.mapping entries, r) ← flowEntries? fuel false r | none
        return (.mapping ((key, value) :: entries), r)
      | _ =>
        let (key, r) ← node? fuel false false r
        let (.mapping entries, r) ← flowEntries? fuel false r | none
        return (.mapping ((key, .missing) :: entries), r)

end

/-! ### Documents -/

/-- The handles that are known without a directive. -/
def defaultHandles : List (List Char) := [['!'], ['!', '!']]

/-- Reads the directives before a document: a version once, and each handle once. Gives the handles,
and whether there is any directive. -/
def directives? : List Token → (version : Bool) → List (List Char) →
    Option (List (List Char) × Bool × List Token)
  | .versionDirective major minor :: rest, version, handles =>
    if version || major != 1 || (minor != 1 && minor != 2) then none
    else directives? rest true handles
  | .tagDirective handle :: rest, version, handles =>
    if handles.contains handle then none else directives? rest version (handle :: handles)
  | rest, version, handles => some (handles, version || !handles.isEmpty, rest)

/-- Reads the document of a list of tokens, and what follows it. -/
def document? (tokens : List Token) : Option (Node × List Token) := do
  let (handles, any, rest) ← directives? tokens false []
  let handles := handles ++ defaultHandles
  match rest with
  | .documentStart :: rest =>
    let r : Reading := ⟨rest, handles, []⟩
    match rest with
    | [] => return (.missing, [])
    | .documentEnd :: _ => return (.missing, rest)
    | .documentStart :: _ => return (.missing, rest)
    | .versionDirective _ _ :: _ => return (.missing, rest)
    | .tagDirective _ :: _ => return (.missing, rest)
    | _ =>
      let (node, r) ← node? (2 * rest.length + 2) true false r
      return (node, r.rest)
  | _ =>
    if any then none
    else
      let (node, r) ← node? (2 * rest.length + 2) true false ⟨rest, handles, []⟩
      return (node, r.rest)

/-- Reads a text with one document or none; the node of no document is left out. -/
def parse? (text : String) : Option Node := do
  match ← tokens? text.toList with
  | [] => return .missing
  | tokens =>
    let (node, rest) ← document? tokens
    if (rest.dropWhile (· == .documentEnd)).isEmpty then return node else none

end SchemaHistory.Yaml
