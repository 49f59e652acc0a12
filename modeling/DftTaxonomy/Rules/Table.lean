import DftTaxonomy.Parameters

/-!
# Run types and rule tables

A run type names the exchange-correlation treatment of a calculation, such as
`PBE`, `HSE06` or `GGA`.  A Hubbard `+U` correction is written as the suffix
`+U` (`PBE+U`), and a run type is a Hubbard one exactly when its label ends
with that suffix.

A rule table maps *functional classes* to *special types*, each with the
parameter values it requires.  A `Scheme` says how a code's table is read:
whether a match is labelled by the special type or by its class, whether the
classes are tried in a fixed priority order or in the order written, and what
run type stands for no match.

* `RuleTable.rules` lists the rules in evaluation order: the classes in the
  scheme's priority order (a class the priority does not name is never
  tried), or in declaration order; within a class, its rules as written.
* `RuleTable.firstMatch` is the first rule in that order whose every
  requirement is met, an absent parameter reading as null.
* `RuleTable.classify` labels the first match, or falls back, and adds `+U`
  for a Hubbard calculation.
* `RuleTable.runTypes` lists every run type the table can produce: the labels
  in declaration order without repeats, then each with `+U`, then the
  fallback and the fallback with `+U`.
-/

namespace DftTaxonomy

/-- A run type, by its label. -/
structure RunType where
  label : String
  deriving DecidableEq, Inhabited

namespace RunType

/-- The suffix of a Hubbard run type. -/
def hubbardSuffix : String := "+U"

/-- Whether the label ends with the Hubbard suffix. -/
def isHubbard (rt : RunType) : Bool := rt.label.endsWith hubbardSuffix

/-- A label with the Hubbard suffix added when `hubbard` holds. -/
def ofLabel (label : String) (hubbard : Bool) : RunType :=
  ⟨if hubbard then label ++ hubbardSuffix else label⟩

end RunType

/-- What names the run type of a match. -/
inductive LabelSource where
  /-- The matching special type. -/
  | specialType
  /-- The class of the matching special type. -/
  | functionalClass
  deriving DecidableEq

/-- How a code's rule table is read. -/
structure Scheme where
  /-- The simulation code. -/
  code : String
  /-- What names the run type of a match. -/
  label : LabelSource
  /-- The classes to try, in order; `none` tries every class as written. -/
  priority : Option (List String)
  /-- The run type when nothing matches; `none` leaves it unclassified. -/
  fallback : Option String

namespace Scheme

/-- VASP: special types name run types, classes are tried HF, VDW, METAGGA,
GGA, and no match means LDA. -/
def vasp : Scheme := ⟨"vasp", .specialType, some ["HF", "VDW", "METAGGA", "GGA"], some "LDA"⟩

/-- CP2K: classes name run types, tried as written, with no fallback. -/
def cp2k : Scheme := ⟨"cp2k", .functionalClass, none, none⟩

end Scheme

/-- A special type with the parameter values it requires, in order. -/
structure Rule where
  name : String
  requires : List (String × Json)

/-- A functional class with its special types, in order. -/
structure FunctionalClass where
  name : String
  rules : List Rule

/-- A loaded rule table: where it came from, how it is read, and its classes
in declaration order. -/
structure RuleTable where
  origin : String
  scheme : Scheme
  classes : List FunctionalClass

namespace Rule

/-- The first value required for `key`, if any. -/
def requirement (rule : Rule) (key : String) : Option Json := Json.lookup key rule.requires

/-- Whether the parameters meet every requirement; an absent parameter reads
as null. -/
def admits (rule : Rule) (params : Params) : Bool :=
  rule.requires.all fun (key, required) => Json.meets ((params.get? key).getD .null) required

end Rule

namespace RuleTable

/-- The first class of that name. -/
def findClass? (table : RuleTable) (name : String) : Option FunctionalClass :=
  table.classes.find? (·.name == name)

/-- The classes in the order they are tried. -/
def evaluationOrder (table : RuleTable) : List FunctionalClass :=
  match table.scheme.priority with
  | some names => names.filterMap table.findClass?
  | none => table.classes

/-- Every rule with its class, in the order they are tried. -/
def rules (table : RuleTable) : List (FunctionalClass × Rule) :=
  table.evaluationOrder.flatMap fun c => c.rules.map (c, ·)

/-- The first rule, in evaluation order, that the parameters meet. -/
def firstMatch (table : RuleTable) (params : Params) : Option (FunctionalClass × Rule) :=
  table.rules.find? fun (_, rule) => rule.admits params

/-- The run type label of a match. -/
def label (table : RuleTable) (c : FunctionalClass) (rule : Rule) : String :=
  match table.scheme.label with
  | .specialType => rule.name
  | .functionalClass => c.name

/-- The run type of the parameters: the first match's label, else the
fallback, with `+U` for a Hubbard calculation; `none` when nothing matches and
there is no fallback. -/
def classify (table : RuleTable) (params : Params) (hubbard : Bool) : Option RunType :=
  match table.firstMatch params with
  | some (c, rule) => some (RunType.ofLabel (table.label c rule) hubbard)
  | none => table.scheme.fallback.map (RunType.ofLabel · hubbard)

/-- Drop every repeat of an earlier item. -/
def dedup : List String → List String → List String
  | [], _ => []
  | x :: xs, seen => if seen.contains x then dedup xs seen else x :: dedup xs (x :: seen)

/-- The labels the declared classes produce, in declaration order, without
repeats. -/
def labels (table : RuleTable) : List String :=
  let all := table.classes.flatMap fun c =>
    match table.scheme.label with
    | .specialType => c.rules.map (·.name)
    | .functionalClass => [c.name]
  dedup all []

/-- Every run type the table can produce, in its listing order. -/
def runTypes (table : RuleTable) : List RunType :=
  let ls := table.labels
  ls.map (RunType.ofLabel · false) ++ ls.map (RunType.ofLabel · true) ++
    match table.scheme.fallback with
    | some f => [RunType.ofLabel f false, RunType.ofLabel f true]
    | none => []

/-- The run type with exactly this label, if the table produces it. -/
def runType (table : RuleTable) (name : String) : Except ClassifyError RunType :=
  match table.runTypes.find? (·.label == name) with
  | some rt => .ok rt
  | none => .error (.unknownRunType name)

end RuleTable

end DftTaxonomy
