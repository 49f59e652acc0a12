import DftTaxonomy.Rules.Table

/-!
# Task vocabularies and calc types

Each simulation code has a closed vocabulary of task types (`TaskKind`): the
list of them, the label each is written with, and each one's own name.  A calc
type pairs a run type of a rule table with a task type and is written
`"{run type} {task label}"`, with the space kept even when the task label is
empty.

* `CalcType.all` lists every pair: run types in the table's order, each with
  every task type in vocabulary order.
* `CalcType.parse` reads a label back: the first run type (in the table's
  order) that the label starts with, followed by a space and then exactly a
  task label, gives the pair.
-/

namespace DftTaxonomy

/-- A code's closed vocabulary of task types. -/
class TaskKind (τ : Type) where
  /-- Every task type, in vocabulary order. -/
  all : List τ
  /-- The label a task type is written with. -/
  label : τ → String
  /-- The task type's own name, as reports quote it. -/
  name : τ → String

namespace TaskKind

/-- The task type written with exactly this label. -/
def ofLabel {τ : Type} [TaskKind τ] (label : String) : Except ClassifyError τ :=
  match (all : List τ).find? (TaskKind.label · == label) with
  | some t => .ok t
  | none => .error (.unknownTaskType label)

end TaskKind

/-- A run type with a task type. -/
structure CalcType (τ : Type) where
  runType : RunType
  task : τ

namespace CalcType

/-- The label of a calc type: run type, a space, task label. -/
def label {τ : Type} [TaskKind τ] (ct : CalcType τ) : String :=
  ct.runType.label ++ " " ++ TaskKind.label ct.task

/-- What is left of `s` after `pre`, if `s` starts with `pre`. -/
def afterPrefix? (pre s : String) : Option String :=
  if pre.toList.isPrefixOf s.toList then some (String.ofList (s.toList.drop pre.length)) else none

/-- Every calc type of a table: each run type with each task type. -/
def all {τ : Type} [TaskKind τ] (table : RuleTable) : List (CalcType τ) :=
  table.runTypes.flatMap fun rt => (TaskKind.all : List τ).map (⟨rt, ·⟩)

/-- The calc type a label names, reading the run type first. -/
def parse {τ : Type} [TaskKind τ] (label : String) (table : RuleTable) :
    Except ClassifyError (CalcType τ) :=
  let reading (rt : RunType) : Option (CalcType τ) := do
    let rest ← afterPrefix? rt.label label
    let taskLabel ← afterPrefix? " " rest
    match (TaskKind.ofLabel taskLabel : Except ClassifyError τ) with
    | .ok t => some ⟨rt, t⟩
    | .error _ => none
  match table.runTypes.findSome? reading with
  | some ct => .ok ct
  | none => .error (.unknownCalcType label)

end CalcType

end DftTaxonomy
