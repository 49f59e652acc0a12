import DftTaxonomy.Client.Host
import DftTaxonomy.Vasp
import DftTaxonomy.Cp2k
import DftTaxonomy.Datum.Sanitize

/-!
# The classifying client

The classifying client takes a settings file (`--config`, anywhere on the
line) and one of three commands:

* `vasp --inputs FILE [--parameters FILE] [--json]` classifies a VASP
  calculation, reading its run type from the parameters (by default the
  `incar` object of the inputs) and its task type from the inputs;
* `cp2k --inputs FILE [--json]` classifies a CP2K calculation;
* `run-types vasp|cp2k` lists every run type of that code's table.

A JSON file named `-` is read from standard input.  Settings and tables are
loaded before the command runs; the first error stops the run with status 1.
A classification prints its calc-type label, or with `--json` an indented
document of the three labels.
-/

namespace DftTaxonomy

namespace Client

/-- A command of the classifying client. -/
inductive ClassifyRequest where
  | vasp (inputs : String) (parameters : Option String) (json : Bool)
  | cp2k (inputs : String) (json : Bool)
  | runTypes (scheme : Scheme)

/-- The classifying client's command line. -/
structure ClassifyInvocation where
  config : Option String
  request : ClassifyRequest

namespace ClassifyInvocation

/-- The command line read from its words; `none` for words it does not accept. -/
def parse? (args : List String) : Option ClassifyInvocation := do
  let a ← ArgScan.scan ["json"] args
  let request ← match a.positionals with
    | ["vasp"] =>
      (a.option? "inputs").map fun inputs =>
        ClassifyRequest.vasp inputs (a.option? "parameters") (a.switch "json")
    | ["cp2k"] => (a.option? "inputs").map fun inputs => ClassifyRequest.cp2k inputs (a.switch "json")
    | ["run-types", "vasp"] => some (.runTypes Scheme.vasp)
    | ["run-types", "cp2k"] => some (.runTypes Scheme.cp2k)
    | _ => none
  pure ⟨a.option? "config", request⟩

end ClassifyInvocation

/-- The labels of a classification as the client prints them: the calc-type
label, a note when the run type is unclassified, or with `json` an indented
document of run type, task type and calc type. -/
def labelsText {τ : Type} [TaskKind τ] (runType : Option RunType) (task : τ) (json : Bool) :
    String :=
  let labelled := runType.map fun rt => (⟨rt, task⟩ : CalcType τ)
  if json then
    let doc := Datum.map [
      (.str "run_type", match runType with
        | some rt => .member rt.label
        | none => .null),
      (.str "task_type", .member (TaskKind.label task)),
      (.str "calc_type", match labelled with
        | some ct => .member ct.label
        | none => .null)]
    match doc.sanitize ⟨true, false⟩ with
    | .ok c => c.serializePretty ++ "\n"
    | .error e => e.message ++ "\n"
  else
    match labelled with
    | some ct => ct.label ++ "\n"
    | none => "unclassified run type, task type `" ++ TaskKind.label task ++ "`\n"

/-- The `incar` object of VASP inputs, or no parameters. -/
def incar (inputs : Params) : Params :=
  match inputs.get? "incar" with
  | some (.obj entries) => entries
  | _ => []

/-- Run a command on loaded tables, giving what it prints. -/
def classifyRequest {m : Type → Type} [Monad m] (host : Host m) (tables : RuleTables) :
    ClassifyRequest → ExceptT String m String
  | .vasp inputsPath parametersPath json => do
    let inputs ← readObject host inputsPath
    let parameters ← match parametersPath with
      | some path => readObject host path
      | none => pure (incar inputs)
    let runType := Vasp.runType tables.vasp parameters
    let task ← liftResult ClassifyError.message (Vasp.taskType inputs)
    pure (labelsText (some runType) task json)
  | .cp2k inputsPath json => do
    let inputs ← readObject host inputsPath
    let runType := Cp2k.runType tables.cp2k inputs
    let task ← liftResult ClassifyError.message (Cp2k.taskType inputs)
    pure (labelsText runType task json)
  | .runTypes scheme =>
    let table := if scheme.code == Scheme.cp2k.code then tables.cp2k else tables.vasp
    pure (String.join (table.runTypes.map fun rt => rt.label ++ "\n"))

/-- Load settings and tables, then run the command. -/
def classifyRun {m : Type → Type} [Monad m] (host : Host m) (inv : ClassifyInvocation) :
    ExceptT String m String := do
  let settings ← liftResultM SettingsError.message (Settings.loadWith host.readFile inv.config host.env)
  let tables ← liftResultM SettingsError.message (settings.ruleTablesWith host.readFile)
  classifyRequest host tables inv.request

/-- The classifying client. -/
def classify {m : Type → Type} [Monad m] (host : Host m) (args : List String) : m Outcome :=
  match ClassifyInvocation.parse? args with
  | none => pure Outcome.usage
  | some inv => do
    match ← (classifyRun host inv).run with
    | .ok out => pure (Outcome.success out)
    | .error message => pure (Outcome.failure message)

end Client

end DftTaxonomy
