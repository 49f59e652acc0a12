import DftTaxonomy.CalcType
import DftTaxonomy.Conformance.Report

/-!
# Consistency of labels

* `labels/run-types` fails when a run type is listed twice, when looking a run
  type up by its label gives another, or when the fallback is not a run type.
* `labels/calc-types` fails when a calc type's label reads back as another
  calc type (a run type ending in a task word makes labels ambiguous) or does
  not read back at all.
-/

namespace DftTaxonomy

namespace Conformance

/-- Problems of the run type list, walking it in order with the labels seen. -/
def runTypeProblems (table : RuleTable) : List String → List RunType → List String
  | _, [] => []
  | seen, rt :: rest =>
    (if seen.contains rt.label then [rt.label ++ " is listed twice"] else []) ++
    (match table.runType rt.label with
      | .ok found => if found == rt then [] else [rt.label ++ " does not resolve"]
      | .error _ => [rt.label ++ " does not resolve"]) ++
    runTypeProblems table (rt.label :: seen) rest

/-- The `labels/run-types` check. -/
def runTypeCheck (table : RuleTable) : CheckResult :=
  let fallbackProblem := match table.scheme.fallback with
    | some f =>
      match table.runType f with
      | .ok _ => []
      | .error _ => ["fallback " ++ f ++ " is not a run type"]
    | none => []
  let details := runTypeProblems table [] table.runTypes ++ fallbackProblem
  CheckResult.ofDetails "labels/run-types" table.origin
    (toString table.runTypes.length ++ " run types resolve") .failure
    "inconsistent run type set" details

/-- The problem with one calc type's label, if it does not read back as
itself. -/
def calcTypeProblem {τ : Type} [TaskKind τ] [DecidableEq τ] (table : RuleTable)
    (ct : CalcType τ) : Option String :=
  match (CalcType.parse ct.label table : Except ClassifyError (CalcType τ)) with
  | .ok parsed =>
    if parsed.runType == ct.runType && parsed.task == ct.task then none
    else some ("`" ++ ct.label ++ "` parses as " ++ parsed.runType.label ++ " / " ++
      TaskKind.name parsed.task)
  | .error e => some e.message

/-- The `labels/calc-types` check. -/
def calcTypeCheck (τ : Type) [TaskKind τ] [DecidableEq τ] (table : RuleTable) : CheckResult :=
  let all : List (CalcType τ) := CalcType.all table
  let details := all.filterMap (calcTypeProblem table)
  CheckResult.ofDetails "labels/calc-types" table.origin
    (toString all.length ++ " calc type labels round-trip") .failure
    (toString details.length ++ " ambiguous calc type label(s)") details

/-- The label checks of a table under a task vocabulary. -/
def validateLabels (τ : Type) [TaskKind τ] [DecidableEq τ] (table : RuleTable) : Report :=
  [runTypeCheck table, calcTypeCheck τ table]

end Conformance

end DftTaxonomy
