import DftTaxonomy.Client.Host
import DftTaxonomy.Conformance.Rules
import DftTaxonomy.Conformance.Labels
import DftTaxonomy.Vasp
import DftTaxonomy.Cp2k

/-!
# The conformance suite and its client

`Conformance.checkTables` runs every check on the VASP table and then on the
CP2K table: the rule checks, then the label checks under that code's task
vocabulary.  `Conformance.runAll` loads the rule tables that settings select
and checks them.  A table that fails to load ends the run; such a failure is
reported under the context `Conformance.loadContext`.

The conformance client takes an optional settings file (`--config`), loads
the rule tables the settings select and runs every conformance check on them.
It prints a report: a title, one line per check with its details, and a
summary.  When a check fails it says so on standard error and ends with
status 1; otherwise the report ends with a line saying the tables passed.
-/

namespace DftTaxonomy

namespace Conformance

/-- Every check of both tables, VASP first. -/
def checkTables (vasp cp2k : RuleTable) : Report :=
  validateRules vasp ++ validateLabels VaspTask vasp ++
    validateRules cp2k ++ validateLabels Cp2kTask cp2k

/-- What a failure to load the tables is reported under. -/
def loadContext : String := "failed to load rule tables"

/-- The report of every check on the tables the settings select, files read by
`read`. -/
def runAllWith {m : Type → Type} [Monad m] (settings : Settings) (read : FileReader m) :
    m (Except SettingsError Report) :=
  (fun r => r.map fun tables => checkTables tables.vasp tables.cp2k) <$> settings.ruleTablesWith read

/-- The report of every check on the tables the settings select, files read
from the store. -/
def runAll (settings : Settings) (store : FileStore) : Except SettingsError Report :=
  Id.run (runAllWith settings store.reader)

end Conformance

namespace Client

/-- The report as the client prints it; a report with no failure ends with a
line saying the tables passed. -/
def reportText (report : Report) : String :=
  let failed := report.count .failure
  let lines :=
    ["calctype Rule Table Conformance Report", "======================================", ""] ++
    report.map CheckResult.display ++
    ["", "Summary: " ++ toString (report.count .pass) ++ " passed, " ++
      toString (report.count .warning) ++ " warnings, " ++ toString failed ++ " failed"] ++
    (if failed = 0 then ["Conformance PASSED."] else [])
  String.join (lines.map (· ++ "\n"))

/-- The outcome of a finished report: status 1 and a note on standard error
when a check failed. -/
def reportOutcome (report : Report) : Outcome :=
  let failed := report.count .failure
  if failed = 0 then Outcome.success (reportText report)
  else ⟨1, reportText report, "Conformance FAILED: " ++ toString failed ++ " check(s) did not pass.\n"⟩

/-- Load settings and tables and run the checks; a table that fails to load
is reported under the run's context. -/
def checkRun {m : Type → Type} [Monad m] (host : Host m) (config : Option String) :
    ExceptT String m Report := do
  let settings ← liftResultM SettingsError.message (Settings.loadWith host.readFile config host.env)
  liftResultM (fun (_ : SettingsError) => Conformance.loadContext)
    (Conformance.runAllWith settings host.readFile)

/-- The conformance client. -/
def check {m : Type → Type} [Monad m] (host : Host m) (args : List String) : m Outcome :=
  match ArgScan.scan [] args with
  | some a =>
    if a.positionals.isEmpty then do
      match ← (checkRun host (a.option? "config")).run with
      | .ok report => pure (reportOutcome report)
      | .error message => pure (Outcome.failure message)
    else pure Outcome.usage
  | none => pure Outcome.usage

end Client

end DftTaxonomy
