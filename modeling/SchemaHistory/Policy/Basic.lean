import SchemaHistory.Json.Reader
import SchemaHistory.Json.Record
import SchemaHistory.History.Basic
import SchemaHistory.Pattern.Reader
import SchemaHistory.Text.Uppercase

/-!
The filter policy: which statements of a history are noise.

A policy is a list of rules, each with a list of patterns. A statement is filtered by the first enabled
rule one of whose patterns is found in it; patterns look at the statement in capitals, without the blanks
around it. All patterns are read when the policy is made, those of rules that are not enabled as well, and
the first that cannot be read is an error.

The document of a policy is an object whose member `filters` lists the rules.
-/

namespace SchemaHistory

/-- A rule of a policy. -/
structure FilterRule where
  name : String
  patterns : List String
  reason : String
  enabled : Bool
  deriving Repr, DecidableEq

/-- A rule with its patterns read. -/
structure CompiledRule where
  rule : FilterRule
  patterns : List Pattern

/-- An ordered list of rules. -/
structure Policy where
  compiled : List CompiledRule

/-- Why there is no policy. -/
inductive PolicyError where
  | malformed
  | invalidPattern (rule pattern : String)
  deriving Repr, DecidableEq

namespace FilterRule

/-- Reads a rule. -/
def ofJson? (v : Json) : Option FilterRule := do
  let [some name, some patterns, some reason, some enabled] ←
    v.fields? ["name", "patterns", "reason", "enabled"] | none
  return ⟨← name.text?, ← (← patterns.list?).mapM Json.text?, ← reason.text?, ← enabled.bool?⟩

/-- Reads the patterns of a rule. -/
def compile (rule : FilterRule) : Except PolicyError CompiledRule := do
  let patterns ← rule.patterns.mapM fun text =>
    match Pattern.parse? text with
    | some pattern => .ok pattern
    | none => .error (.invalidPattern rule.name text)
  return ⟨rule, patterns⟩

end FilterRule

namespace CompiledRule

/-- Whether the rule is enabled and one of its patterns is found in a text. -/
def applies (c : CompiledRule) (text : List Char) : Bool :=
  c.rule.enabled && c.patterns.any (·.isFoundIn text)

end CompiledRule

namespace Policy

/-- The policy of a list of rules. -/
def ofRules (rules : List FilterRule) : Except PolicyError Policy := do
  return ⟨← rules.mapM FilterRule.compile⟩

/-- Reads the rules of a document. -/
def rulesOfDocument? (text : String) : Option (List FilterRule) := do
  let [some filters] ← (← Json.read? text.toList).fields? ["filters"] | none
  (← filters.list?).mapM FilterRule.ofJson?

/-- The policy of a document. -/
def ofDocument (text : String) : Except PolicyError Policy :=
  match rulesOfDocument? text with
  | some rules => ofRules rules
  | none => .error .malformed

/-- The rules in order, enabled or not. -/
def rules (p : Policy) : List FilterRule := p.compiled.map (·.rule)

/-- The number of rules. -/
def size (p : Policy) : Nat := p.compiled.length

/-- Whether there are no rules. -/
def isEmpty (p : Policy) : Bool := p.compiled.isEmpty

/-- The number of rules that are enabled. -/
def enabledCount (p : Policy) : Nat := (p.compiled.filter (·.rule.enabled)).length

/-- What the patterns look at: a statement in capitals, without the blanks around it. -/
def subject (sql : String) : List Char := upper (trim sql.toList)

/-- The first enabled rule with a pattern that is found in a statement. -/
def evaluate (p : Policy) (sql : String) : Option FilterRule :=
  (p.compiled.find? fun c => c.applies (subject sql)).map (·.rule)

/-- Why the policy filters a statement, if it does. -/
def reasonFor (p : Policy) (sql : String) : Option FilterReason :=
  (p.evaluate sql).map fun rule => .policy rule.name rule.reason

end Policy

/-- Marks every unfiltered statement that the policy filters. -/
def History.applyPolicy (h : History) (p : Policy) : History :=
  h.mapStatements fun s =>
    if s.isFiltered then s
    else match p.reasonFor s.text with
      | some reason => s.mark reason
      | none => s

end SchemaHistory
