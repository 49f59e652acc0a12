import DftTaxonomy.CalcType

/-!
# CP2K task types, run types and calc types

The task of a CP2K calculation is its global `Run_type` keyword, upper-cased
(without trimming), looked up among the keyword groups of each task type; an
absent or null keyword, or one of no group, is unrecognized, and a keyword
that is not a string is an invalid parameter.

The rule parameters of a CP2K calculation are built from its DFT section:
`FUNCTIONAL` is the functional entry with a one-item list read as its item
(null when absent), `INTERACTION_POTENTIAL` and `FRACTION` come from the
exact-exchange (`hfx`) object when it is one (null and `0` when absent), and
then every one-item list is read as its item again.  The run type is the rule
table's first match with `+U` when `dft_plus_u` is truthy, read without
unwrapping (so `[false]` counts); with no match there is no run type.  The
calc type reads the task first, so a bad `Run_type` fails even when the run
type is unclassified.
-/

namespace DftTaxonomy

/-- The task types of CP2K. -/
inductive Cp2kTask where
  | static
  | structureOptimization
  | band
  | molecularDynamics
  | monteCarlo
  | linearResponse
  | vibrationalAnalysis
  | electronicSpectra
  | negf
  | pathIntegral
  | realTimePropagation
  | bsse
  | debug
  | none
  | unrecognized
  deriving DecidableEq, Inhabited

instance : TaskKind Cp2kTask where
  all := [.static, .structureOptimization, .band, .molecularDynamics, .monteCarlo,
    .linearResponse, .vibrationalAnalysis, .electronicSpectra, .negf, .pathIntegral,
    .realTimePropagation, .bsse, .debug, .none, .unrecognized]
  label
    | .static => "Static"
    | .structureOptimization => "Structure Optimization"
    | .band => "Band"
    | .molecularDynamics => "Molecular Dynamics"
    | .monteCarlo => "Monte Carlo"
    | .linearResponse => "Linear Response"
    | .vibrationalAnalysis => "Vibrational Analysis"
    | .electronicSpectra => "Electronic Spectra"
    | .negf => "Non-equilibrium Green's Function"
    | .pathIntegral => "Path Integral"
    | .realTimePropagation => "Real-time propagation"
    | .bsse => "Base set superposition error"
    | .debug => "Debug analysis"
    | .none => "None"
    | .unrecognized => ""
  name
    | .static => "Static"
    | .structureOptimization => "StructureOptimization"
    | .band => "Band"
    | .molecularDynamics => "MolecularDynamics"
    | .monteCarlo => "MonteCarlo"
    | .linearResponse => "LinearResponse"
    | .vibrationalAnalysis => "VibrationalAnalysis"
    | .electronicSpectra => "ElectronicSpectra"
    | .negf => "Negf"
    | .pathIntegral => "PathIntegral"
    | .realTimePropagation => "RealTimePropagation"
    | .bsse => "Bsse"
    | .debug => "Debug"
    | .none => "None"
    | .unrecognized => "Unrecognized"

namespace Cp2k

/-- The `Run_type` keywords of each task type, in lookup order. -/
def taskGroups : List (List String × Cp2kTask) := [
  (["ENERGY", "ENERGY_FORCE", "WAVEFUNCTION_OPTIMIZATION", "WFN_OPT"], .static),
  (["GEO_OPT", "GEOMETRY_OPTIMIZATION", "CELL_OPT"], .structureOptimization),
  (["BAND"], .band),
  (["MOLECULAR_DYNAMICS", "MD"], .molecularDynamics),
  (["MONTE_CARLO", "MC", "TMC", "TAMC"], .monteCarlo),
  (["LINEAR_RESPONSE", "LR"], .linearResponse),
  (["VIBRATIONAL_ANALYSIS", "NORMAL_MODES"], .vibrationalAnalysis),
  (["ELECTRONIC_SPECTRA", "SPECTRA"], .electronicSpectra),
  (["NEGF"], .negf),
  (["PINT", "DRIVER"], .pathIntegral),
  (["RT_PROPAGATION", "EHRENFEST_DYN"], .realTimePropagation),
  (["BSSE"], .bsse),
  (["DEBUG"], .debug),
  (["NONE"], .none)]

/-- The task type of an upper-cased keyword. -/
def taskOfKeyword (keyword : String) : Cp2kTask :=
  match taskGroups.find? (·.1.contains keyword) with
  | some (_, task) => task
  | none => .unrecognized

/-- The task of a calculation from its `Run_type`. -/
def taskType (inputs : Params) : Except ClassifyError Cp2kTask :=
  match inputs.get? "Run_type" with
  | none => .ok (taskOfKeyword "")
  | some .null => .ok (taskOfKeyword "")
  | some (.str s) => .ok (taskOfKeyword (Text.upper s))
  | some other => .error (.invalidParameter "Run_type" "a string" other)

/-- The flag of a Hubbard calculation. -/
def hubbardFlag : String := "dft_plus_u"

/-- The parameters the rule table is matched against. -/
def ruleParameters (dft : Params) : Params :=
  let hfx : Option Params := match dft.get? "hfx" with
    | some (.obj entries) => some entries
    | _ => none
  let hfxValue (key : String) : Option Json := hfx.bind (·.get? key)
  Params.normalize [
    ("FUNCTIONAL", ((dft.get? "functional").map Json.unwrapSingleton).getD .null),
    ("INTERACTION_POTENTIAL", (hfxValue "Interaction_Potential").getD .null),
    ("FRACTION", (hfxValue "FRACTION").getD (.num (.int 0)))]

/-- The run type of a calculation, if a rule matches. -/
def runType (table : RuleTable) (dft : Params) : Option RunType :=
  table.classify (ruleParameters dft) (truthy (dft.get? hubbardFlag))

/-- The calc type of a calculation, `none` when its run type is unclassified. -/
def calcType (table : RuleTable) (inputs : Params) :
    Except ClassifyError (Option (CalcType Cp2kTask)) := do
  let task ← taskType inputs
  pure ((runType table inputs).map (⟨·, task⟩))

end Cp2k

end DftTaxonomy
