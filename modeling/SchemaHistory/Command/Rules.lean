import SchemaHistory.Command.Basic

/-!
The command that lists the rules of the policy.
-/

namespace SchemaHistory.Command

open Session

/-- The row of a rule. -/
def ruleRow (r : FilterRule) : List String :=
  [r.name, if r.enabled then "yes" else "no", ", ".intercalate r.patterns, r.reason]

/-- The lines that list the rules of a policy. -/
def ruleLines (p : Policy) : List String :=
  if p.isEmpty then ["No filter rules defined."]
  else
    Table.lines ["NAME", "ENABLED", "PATTERNS", "REASON"] (p.rules.map ruleRow) ++
      ["", toString p.size ++ " rules, " ++ toString p.enabledCount ++ " enabled"]

/-- Lists the rules of the policy. -/
def rules (settings : Settings) : Session.Action Unit := do
  let config ← settings.loadConfig
  let policy ← settings.loadPolicy config
  printLines (ruleLines policy)

end SchemaHistory.Command
