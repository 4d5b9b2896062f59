import SchemaHistory.Config.File
import SchemaHistory.Policy.File
import SchemaHistory.Redundancy
import SchemaHistory.Session
import SchemaHistory.Summary
import SchemaHistory.Text.Table

/-!
What the commands have in common: their settings, the filtered history and the totals they print.
-/

namespace SchemaHistory

open Session

/-- What every command can be told. -/
structure Settings where
  config : Option Path
  policy : Option Path
  deriving Repr, DecidableEq

namespace Settings

/-- Loads the configuration, from the given file or from the working directory. -/
def loadConfig (s : Settings) : Session.Action Config :=
  ask (.loadingConfig s.config) fun fs =>
    match s.config with
    | some path => Config.load path fs
    | none => Config.loadFrom (.ofString ".") fs

/-- Loads the policy, from the given file or from the one that is configured. -/
def loadPolicy (s : Settings) (config : Config) : Session.Action Policy :=
  let path := s.policy.getD (.ofString config.policyPath)
  ask (.loadingPolicy path) (Policy.load path)

end Settings

/-- The history of some migrations, filtered by a policy and then by what is redundant in it. -/
def History.ofFiltered (sources : List Source) (policy : Policy) : History :=
  ((History.ofSources sources).applyPolicy policy).resolve

namespace Summary

/-- The lines of a count by reason. -/
def countLines (counts : List (String × Nat)) : List String :=
  counts.map fun (reason, n) => "    " ++ reason ++ ": " ++ toString n

/-- The totals in lines, without those of the reconciliation if there was none. -/
def lines (s : Summary) (reconciled : Bool) : List String :=
  ["Summary:",
    "  Total statements:          " ++ toString s.total,
    "  Filtered:                  " ++ toString s.filtered] ++
  countLines s.filteredByReason ++
  (if reconciled then
    ["  Found in new migration:    " ++ toString s.reconciled,
      "  Filtered, not in new:      " ++ toString s.filteredRemaining] ++
    countLines s.remainingByReason ++
    ["  Missing:                   " ++ toString s.missing]
  else [])

end Summary

/-- How many characters of a statement a table shows. -/
def statementWidth : Nat := 72

end SchemaHistory
