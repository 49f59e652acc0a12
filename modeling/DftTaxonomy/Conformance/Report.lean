/-!
# Conformance reports

A conformance check ends in a `CheckResult`: which validator ran, on which
table (named by its origin), its severity, a one-line message and detail
lines.  A result is written `[TAG] validator (table): message`, each detail
on a line of its own indented by seven spaces.  A `Report` is the results in
the order the checks ran; it passes when none of them failed, warnings
included.
-/

namespace DftTaxonomy

/-- How a check ended. -/
inductive Severity where
  | pass
  | warning
  | failure
  deriving DecidableEq

/-- The tag a result is written with. -/
def Severity.tag : Severity → String
  | .pass => "PASS"
  | .warning => "WARN"
  | .failure => "FAIL"

/-- The outcome of one check on one table. -/
structure CheckResult where
  validator : String
  table : String
  severity : Severity
  message : String
  details : List String

namespace CheckResult

/-- Whether the check failed. -/
def isFailure (r : CheckResult) : Bool := r.severity == .failure

/-- The result as text: a tagged headline, then the detail lines. -/
def display (r : CheckResult) : String :=
  "[" ++ r.severity.tag ++ "] " ++ r.validator ++ " (" ++ r.table ++ "): " ++ r.message ++
    String.join (r.details.map ("\n       " ++ ·))

/-- A check that passed, or that ended with `severity` when it has details. -/
def ofDetails (validator table : String) (passMessage : String) (severity : Severity)
    (problemMessage : String) (details : List String) : CheckResult :=
  if details.isEmpty then ⟨validator, table, .pass, passMessage, []⟩
  else ⟨validator, table, severity, problemMessage, details⟩

end CheckResult

/-- The results of a conformance run, in the order the checks ran. -/
abbrev Report := List CheckResult

namespace Report

/-- How many results have this severity. -/
def count (report : Report) (s : Severity) : Nat := (report.filter (·.severity == s)).length

/-- Whether no check failed. -/
def allPassed (report : Report) : Bool := report.count .failure == 0

/-- The results of one validator, in order. -/
def byValidator (report : Report) (validator : String) : Report :=
  report.filter (·.validator == validator)

end Report

end DftTaxonomy
