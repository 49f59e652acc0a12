import DftTaxonomy.Json.Write
import DftTaxonomy.Text.Upper

/-!
# Calculation parameters and classification failures

The parameters of a calculation are a JSON object: names with values, in the
order written (`Params`).  The classifiers read them loosely:

* `Json.meets` decides whether an actual value meets a required one:
  strings match after trimming blanks and upper-casing, numbers match by value
  as doubles, a boolean matches the number `1` or `0`, and any other pair must
  be the same value.
* `unwrapSingleton` reads a one-item list as its item, and `normalize` does so
  for every parameter.
* `truthy` is the truth of a value: present, not null, not false, not zero,
  not empty.
* `Params.number` and `Params.subsection` read a number or an object, with a
  default for an absent or null value, and fail with `invalidParameter` on a
  value of another kind.

A classification fails for one of five causes, each a constructor of
`ClassifyError`; `ClassifyError.message` words each cause.  Values found in
the input are kept as JSON and quoted in compact JSON text.
-/

namespace DftTaxonomy

/-- Why the k-point labels of a calculation cannot be counted. -/
inductive KpointLabelError where
  /-- The k-point section is not an object. -/
  | notAnObject (found : Json)
  /-- The labels entry is not a list. -/
  | notAList (found : Json)

/-- The words for a k-point label failure. -/
def KpointLabelError.message : KpointLabelError → String
  | .notAnObject found => "kpoints must be an object, found " ++ found.compact
  | .notAList found => "kpoints.labels must be a list, found " ++ found.compact

/-- Why a run type, task type or calc type cannot be determined or read. -/
inductive ClassifyError where
  /-- The k-point labels cannot be counted. -/
  | kpointLabels (cause : KpointLabelError)
  /-- A parameter has a value of the wrong kind; `expected` names the kind. -/
  | invalidParameter (key expected : String) (found : Json)
  /-- A run type label that the rule table does not produce. -/
  | unknownRunType (name : String)
  /-- A task label that the task vocabulary does not have. -/
  | unknownTaskType (label : String)
  /-- A calc type label that no run type and task make. -/
  | unknownCalcType (label : String)

/-- The words for a classification failure. -/
def ClassifyError.message : ClassifyError → String
  | .kpointLabels cause => "couldn't identify total number of kpt labels: " ++ cause.message
  | .invalidParameter key expected found =>
    "parameter `" ++ key ++ "` must be " ++ expected ++ ", found " ++ found.compact
  | .unknownRunType name => "unknown run type `" ++ name ++ "`"
  | .unknownTaskType label => "unknown task type `" ++ label ++ "`"
  | .unknownCalcType label => "unknown calc type `" ++ label ++ "`"

/-- The parameters of a calculation: names with values, in order. -/
abbrev Params := List (String × Json)

namespace Json

/-- A string's comparison form: blanks trimmed, then upper-cased. -/
def foldText (s : String) : String := Text.upper (Text.trim s)

/-- The double a boolean stands for: `1` or `0`. -/
def boolNumber (b : Bool) : Binary64 := Binary64.ofInt (if b then 1 else 0)

/-- Whether the actual value meets the required one. -/
def meets (actual required : Json) : Bool :=
  match actual, required with
  | .bool b, .num n => n.toBinary64.eq (boolNumber b)
  | .num n, .bool b => n.toBinary64.eq (boolNumber b)
  | .str a, .str b => foldText a == foldText b
  | .num a, .num b => a.toBinary64.eq b.toBinary64
  | a, b => a.same b

/-- A one-item list read as its item; any other value as itself. -/
def unwrapSingleton : Json → Json
  | .arr [x] => x
  | v => v

end Json

namespace Params

/-- The value of a parameter, if present. -/
def get? (params : Params) (key : String) : Option Json := Json.lookup key params

/-- Every parameter with its one-item list unwrapped. -/
def normalize (params : Params) : Params := params.map fun (k, v) => (k, v.unwrapSingleton)

/-- Normalizing keeps every name in its place. -/
@[simp]
theorem keys_normalize (params : Params) :
    (normalize params).map Prod.fst = params.map Prod.fst := by
  simp [normalize, Function.comp_def]

/-- A normalized parameter is the parameter with a one-item list unwrapped. -/
theorem get?_normalize (params : Params) (key : String) :
    (normalize params).get? key = (params.get? key).map Json.unwrapSingleton := by
  induction params with
  | nil => rfl
  | cons e rest ih =>
    obtain ⟨k, v⟩ := e
    by_cases h : k = key
    · simp [normalize, get?, Json.lookup, h]
    · simp_all [normalize, get?, Json.lookup]

end Params

/-- The truth of an optional value: absent, null, false, zero and empty are
false; a NaN counts as true, as it differs from zero. -/
def truthy : Option Json → Bool
  | none => false
  | some .null => false
  | some (.bool b) => b
  | some (.num n) => !n.toBinary64.eq Binary64.zero
  | some (.str s) => !s.isEmpty
  | some (.arr xs) => !xs.isEmpty
  | some (.obj es) => !es.isEmpty

namespace Params

/-- A numeric parameter: `default` when absent or null, `1` or `0` for a
boolean, the number as a double, and `invalidParameter` otherwise. -/
def number (params : Params) (key : String) (default : Binary64) : Except ClassifyError Binary64 :=
  match params.get? key with
  | none => .ok default
  | some .null => .ok default
  | some (.bool b) => .ok (Json.boolNumber b)
  | some (.num n) => .ok n.toBinary64
  | some other => .error (.invalidParameter key "a number" other)

/-- An object parameter: `none` when absent or null, its entries when it is an
object, and `invalidParameter` otherwise. -/
def subsection (params : Params) (key : String) : Except ClassifyError (Option Params) :=
  match params.get? key with
  | none => .ok none
  | some .null => .ok none
  | some (.obj entries) => .ok (some entries)
  | some other => .error (.invalidParameter key "an object" other)

end Params

end DftTaxonomy
