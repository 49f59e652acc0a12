import DftTaxonomy.Rules.Table
import DftTaxonomy.Conformance.Report

/-!
# Reachability and overlap of rules

A rule *shadows* a later one when every requirement of the earlier rule is
also required by the later one, with a value that meets it: every parameter
map the later rule admits, the earlier admits too, so the later rule, tried
after it, never fires.  Two rules *overlap* when no requirement of the first
is contradicted by the second: each is either absent from the second or
required there with a value that meets it.

* `rules/shadowing` fails, naming each rule with the first earlier rule (in
  evaluation order) that shadows it;
* `rules/overlap`, for tables tried in declaration order only, warns of every
  pair of rules of different classes that overlap without the first shadowing
  the second: class order decides between them;
* `rules/duplicate-labels`, for tables labelled by special type only, warns of
  every pair of rules with one name.
-/

namespace DftTaxonomy

namespace Rule

/-- Whether every requirement of `earlier` is required by `later` with a value
that meets it. -/
def shadows (earlier later : Rule) : Bool :=
  earlier.requires.all fun (key, required) =>
    match later.requirement key with
    | some value => Json.meets value required
    | none => false

/-- Whether no requirement of `a` is contradicted by `b`. -/
def overlaps (a b : Rule) : Bool :=
  a.requires.all fun (key, required) =>
    match b.requirement key with
    | some value => Json.meets value required
    | none => true

end Rule

namespace Conformance

/-- A rule's name qualified by its class: `CLASS.NAME`. -/
def qualified (entry : FunctionalClass × Rule) : String := entry.1.name ++ "." ++ entry.2.name

/-- Every pair of items, the first before the second, in order. -/
def orderedPairs {α : Type} : List α → List (α × α)
  | [] => []
  | x :: xs => xs.map (x, ·) ++ orderedPairs xs

/-- One line for each rule shadowed by an earlier one of `before`. -/
def shadowed (before : List (FunctionalClass × Rule)) :
    List (FunctionalClass × Rule) → List String
  | [] => []
  | entry :: rest =>
    let line := match before.find? (fun e => e.2.shadows entry.2) with
      | some e => [qualified entry ++ " is shadowed by " ++ qualified e]
      | none => []
    line ++ shadowed (before ++ [entry]) rest

/-- The `rules/shadowing` check. -/
def shadowingCheck (table : RuleTable) : CheckResult :=
  let ordered := table.rules
  let details := shadowed [] ordered
  CheckResult.ofDetails "rules/shadowing" table.origin
    ("all " ++ toString ordered.length ++ " rules reachable") .failure
    (toString details.length ++ " unreachable rule(s)") details

/-- The `rules/overlap` check. -/
def overlapCheck (table : RuleTable) : CheckResult :=
  let details := (orderedPairs table.rules).filterMap fun (a, b) =>
    if a.1.name != b.1.name && a.2.overlaps b.2 && !a.2.shadows b.2 then
      some (qualified a ++ " and " ++ qualified b ++ " can both match; declaration order decides")
    else none
  CheckResult.ofDetails "rules/overlap" table.origin "classes are mutually exclusive" .warning
    (toString details.length ++ " cross-class overlap(s)") details

/-- The `rules/duplicate-labels` check. -/
def duplicateLabelCheck (table : RuleTable) : CheckResult :=
  let details := (orderedPairs table.rules).filterMap fun (a, b) =>
    if a.2.name == b.2.name then some (qualified a ++ " and " ++ qualified b ++ " share a label")
    else none
  CheckResult.ofDetails "rules/duplicate-labels" table.origin "special type labels are unique"
    .warning (toString details.length ++ " duplicate label(s)") details

/-- The rule checks of a table: shadowing always, overlap when classes are
tried as written, duplicate labels when special types name run types. -/
def validateRules (table : RuleTable) : Report :=
  [shadowingCheck table] ++
    (if table.scheme.priority.isNone then [overlapCheck table] else []) ++
    (if table.scheme.label == .specialType then [duplicateLabelCheck table] else [])

end Conformance

end DftTaxonomy
