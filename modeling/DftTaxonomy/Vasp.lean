import DftTaxonomy.CalcType

/-!
# VASP task types, run types and calc types

The task of a VASP calculation is decided from its INCAR tags and k-point
labels by a list of rules tried in order; the first that applies gives the
task, and a failure to read a tag the rule needs stops the decision there:

1. `ICHARG > 10` (non-self-consistent): `NSCF Line` when the k-points carry
   labels, else `NSCF Uniform`;
2. `LEPSILON`: `DFPT Dielectric` when `IBRION > 6`, else `Dielectric`;
3. `IBRION > 6`: `DFPT`;
4. `LCHIMAG`: `NMR Nuclear Shielding`;
5. `LEFG`: `NMR Electric Field Gradient`;
6. `NSW = 0`: `Static`;
7. `ISIF = 3` and `IBRION > 0`: `Structure Optimization`;
8. `ISIF = 2` and `IBRION > 0`: `Deformation` (here an absent `ISIF` reads as 3);
9. otherwise unrecognized, with the empty label.

Absent numeric tags read as `ICHARG = 0`, `IBRION = 0`, `NSW = 1`, `ISIF = 2`.

The run type of a VASP calculation comes from its reported parameters, each
one-item list read as its item: the rule table's first match, or `LDA` when
nothing matches (whatever the table's own scheme), with `+U` when the `LDAU`
flag is truthy.  The calc type reads the run type first and the task second,
so only the task can fail.
-/

namespace DftTaxonomy

/-- The task types of VASP. -/
inductive VaspTask where
  | nscfLine
  | nscfUniform
  | dielectric
  | dfpt
  | dfptDielectric
  | nmrNuclearShielding
  | nmrElectricFieldGradient
  | static
  | structureOptimization
  | deformation
  | unrecognized
  deriving DecidableEq, Inhabited

instance : TaskKind VaspTask where
  all := [.nscfLine, .nscfUniform, .dielectric, .dfpt, .dfptDielectric, .nmrNuclearShielding,
    .nmrElectricFieldGradient, .static, .structureOptimization, .deformation, .unrecognized]
  label
    | .nscfLine => "NSCF Line"
    | .nscfUniform => "NSCF Uniform"
    | .dielectric => "Dielectric"
    | .dfpt => "DFPT"
    | .dfptDielectric => "DFPT Dielectric"
    | .nmrNuclearShielding => "NMR Nuclear Shielding"
    | .nmrElectricFieldGradient => "NMR Electric Field Gradient"
    | .static => "Static"
    | .structureOptimization => "Structure Optimization"
    | .deformation => "Deformation"
    | .unrecognized => ""
  name
    | .nscfLine => "NscfLine"
    | .nscfUniform => "NscfUniform"
    | .dielectric => "Dielectric"
    | .dfpt => "Dfpt"
    | .dfptDielectric => "DfptDielectric"
    | .nmrNuclearShielding => "NmrNuclearShielding"
    | .nmrElectricFieldGradient => "NmrElectricFieldGradient"
    | .static => "Static"
    | .structureOptimization => "StructureOptimization"
    | .deformation => "Deformation"
    | .unrecognized => "Unrecognized"

namespace Vasp

/-- The number of k-point labels: none when the k-points are not truthy or
carry no truthy labels, else the non-null labels of the list. -/
def kpointLabelCount (kpoints : Option Json) : Except KpointLabelError Nat :=
  if !truthy kpoints then .ok 0
  else
    match kpoints with
    | some (.obj entries) =>
      let labels := Json.lookup "labels" entries
      if !truthy labels then .ok 0
      else
        match labels with
        | some (.arr items) => .ok (items.filter fun l => !(l matches .null)).length
        | some other => .error (.notAList other)
        | none => .ok 0
    | some other => .error (.notAnObject other)
    | none => .ok 0

/-- The INCAR and k-points of a calculation's inputs. -/
structure Inputs where
  incar : Option Params
  kpoints : Option Json

/-- Read the INCAR section and the k-points of the inputs. -/
def Inputs.ofParams (inputs : Params) : Except ClassifyError Inputs := do
  let incar ← inputs.subsection "incar"
  pure ⟨incar, inputs.get? "kpoints"⟩

/-- A numeric INCAR tag, `default` when there is no INCAR. -/
def Inputs.number (i : Inputs) (key : String) (default : Int) : Except ClassifyError Binary64 :=
  match i.incar with
  | some incar => incar.number key (Binary64.ofInt default)
  | none => .ok (Binary64.ofInt default)

/-- The truth of an INCAR flag. -/
def Inputs.flag (i : Inputs) (key : String) : Bool :=
  truthy (i.incar.bind (·.get? key))

/-- Whether a tag's value is above a whole number. -/
def above (x : Binary64) (n : Int) : Bool := (Binary64.ofInt n).lt x

/-- Whether a tag's value equals a whole number. -/
def equals (x : Binary64) (n : Int) : Bool := x.eq (Binary64.ofInt n)

/-- A rule of the decision list: when it applies, and the task it gives. -/
structure TaskRule where
  applies : Inputs → Except ClassifyError Bool
  task : Inputs → Except ClassifyError VaspTask

/-- The decision list, in order. -/
def taskRules : List TaskRule := [
  ⟨fun i => do pure (above (← i.number "ICHARG" 0) 10),
   fun i => do
     let count ← (kpointLabelCount i.kpoints).mapError .kpointLabels
     pure (if 0 < count then .nscfLine else .nscfUniform)⟩,
  ⟨fun i => pure (i.flag "LEPSILON"),
   fun i => do pure (if above (← i.number "IBRION" 0) 6 then .dfptDielectric else .dielectric)⟩,
  ⟨fun i => do pure (above (← i.number "IBRION" 0) 6), fun _ => pure .dfpt⟩,
  ⟨fun i => pure (i.flag "LCHIMAG"), fun _ => pure .nmrNuclearShielding⟩,
  ⟨fun i => pure (i.flag "LEFG"), fun _ => pure .nmrElectricFieldGradient⟩,
  ⟨fun i => do pure (equals (← i.number "NSW" 1) 0), fun _ => pure .static⟩,
  ⟨fun i => do
     let isif ← i.number "ISIF" 2
     if equals isif 3 then pure (above (← i.number "IBRION" 0) 0) else pure false,
   fun _ => pure .structureOptimization⟩,
  ⟨fun i => do
     let isif ← i.number "ISIF" 3
     if equals isif 2 then pure (above (← i.number "IBRION" 0) 0) else pure false,
   fun _ => pure .deformation⟩]

/-- The task given by the first rule that applies; a failure while testing or
applying a rule is the answer. -/
def firstApplicable (i : Inputs) : List TaskRule → Except ClassifyError VaspTask
  | [] => .ok .unrecognized
  | r :: rest =>
    match r.applies i with
    | .error e => .error e
    | .ok true => r.task i
    | .ok false => firstApplicable i rest

/-- The task of a calculation from its inputs. -/
def taskType (params : Params) : Except ClassifyError VaspTask := do
  let i ← Inputs.ofParams params
  firstApplicable i taskRules

/-- The flag of a Hubbard calculation. -/
def hubbardFlag : String := "LDAU"

/-- The run type when no rule matches. -/
def fallbackRunType : String := "LDA"

/-- The run type of a calculation's parameters. -/
def runType (table : RuleTable) (parameters : Params) : RunType :=
  let params := parameters.normalize
  let hubbard := truthy (params.get? hubbardFlag)
  (table.classify params hubbard).getD (RunType.ofLabel fallbackRunType hubbard)

/-- The calc type of a calculation: its run type from `parameters`, its task
from `inputs`. -/
def calcType (table : RuleTable) (inputs parameters : Params) :
    Except ClassifyError (CalcType VaspTask) := do
  let rt := runType table parameters
  let task ← taskType inputs
  pure ⟨rt, task⟩

end Vasp

end DftTaxonomy
