import DftTaxonomy.Grouping
import DftTaxonomy.Binary64.Parse
import DftTaxonomy.Text.Upper
import DftTaxonomy.Text.Escaped
import DftTaxonomy.Toml.Read
import DftTaxonomy.Rules.Bundled

/-!
# Settings

Settings hold the grouping tolerances and where to find replacement rule
tables.  They are read in three layers, each over the last:

1. the defaults (`Tolerances.default`, bundled tables);
2. an optional TOML file, whose keys are exactly those of the settings, any of
   them left out; a tolerance may be written as an integer or a float, a table
   location as a string;
3. the environment: `CALCTYPE_SYMPREC`, `CALCTYPE_LTOL`, `CALCTYPE_STOL` and
   `CALCTYPE_ANGLE_TOL` in that order, each trimmed and read as a decimal
   double, then `CALCTYPE_VASP_RULES` and `CALCTYPE_CP2K_RULES`, taken as they
   are.

The first value that cannot be read stops loading with a `SettingsError`.
`Settings.ruleTables` then loads the VASP table and then the CP2K table, each
from its location or, without one, the bundled table.
-/

namespace DftTaxonomy

/-- Classifier and grouping settings. -/
structure Settings where
  tolerances : Tolerances
  /-- Location of a replacement VASP rule table. -/
  vaspRules : Option String
  /-- Location of a replacement CP2K rule table. -/
  cp2kRules : Option String

/-- Environment variables by name. -/
abbrev Environment := List (String × String)

/-- Why settings cannot be loaded. -/
inductive SettingsError where
  /-- The settings file cannot be read. -/
  | io (path : String) (cause : FileError)
  /-- The settings file is not TOML of the settings' form. -/
  | parse (path : String)
  /-- A tolerance override is not a number. -/
  | invalidEnv (var value : String)
  /-- A replacement rule table fails to load. -/
  | rules (cause : RuleTableError)

namespace SettingsError

/-- The error as a sentence. -/
def message : SettingsError → String
  | .io path cause => "cannot read settings " ++ path ++ ": " ++ cause.message
  | .parse path => "invalid settings " ++ path ++ ": TOML parse error"
  | .invalidEnv var value =>
    "environment variable " ++ var ++ "=" ++ Text.quoted value ++ " is not a valid number"
  | .rules cause => cause.message

end SettingsError

/-- The two rule tables in use, each marked when it is the bundled one. -/
structure RuleTables where
  vasp : RuleTable
  cp2k : RuleTable
  vaspBundled : Bool
  cp2kBundled : Bool

namespace Settings

/-- The environment variables settings read, in the order they are applied. -/
def environmentNames : List String :=
  ["CALCTYPE_SYMPREC", "CALCTYPE_LTOL", "CALCTYPE_STOL", "CALCTYPE_ANGLE_TOL",
    "CALCTYPE_VASP_RULES", "CALCTYPE_CP2K_RULES"]

/-- Default tolerances and the bundled tables. -/
def default : Settings := ⟨Tolerances.default, none, none⟩

/-- A tolerance in the TOML form: an integer or a float. -/
def tolerance? : TomlValue → Option Binary64
  | .float x => some x
  | .integer i => some (Binary64.ofInt i)
  | _ => none

/-- A table location in the TOML form: a string. -/
def location? : TomlValue → Option String
  | .string s => some s
  | _ => none

/-- One key of the TOML form set on `s`; `none` for an unknown key or a value
of the wrong type. -/
def setKey (s : Settings) : String × TomlValue → Option Settings
  | ("symprec", v) => (tolerance? v).map fun x => { s with tolerances := { s.tolerances with symprec := x } }
  | ("ltol", v) => (tolerance? v).map fun x => { s with tolerances := { s.tolerances with ltol := x } }
  | ("stol", v) => (tolerance? v).map fun x => { s with tolerances := { s.tolerances with stol := x } }
  | ("angle_tol", v) => (tolerance? v).map fun x => { s with tolerances := { s.tolerances with angleTol := x } }
  | ("vasp_rules", v) => (location? v).map fun p => { s with vaspRules := some p }
  | ("cp2k_rules", v) => (location? v).map fun p => { s with cp2kRules := some p }
  | _ => none

/-- Settings from a TOML document, missing keys at their defaults. -/
def ofDocument? (doc : List (String × TomlValue)) : Option Settings :=
  doc.foldlM setKey default

/-- Settings from TOML text; `none` when the text is not TOML of the settings'
form. -/
def ofToml? (text : String) : Option Settings :=
  (Toml.parse? text).bind ofDocument?

/-- Settings from the outcome of reading the settings file at `path`. -/
def ofRead (path : String) : Except FileError String → Except SettingsError Settings
  | .error cause => .error (.io path cause)
  | .ok text =>
    match ofToml? text with
    | some s => .ok s
    | none => .error (.parse path)

/-- A tolerance override: the variable's trimmed value read as a double. -/
def overrideTolerance (env : Environment) (var : String) (current : Binary64) :
    Except SettingsError Binary64 :=
  match env.lookup var with
  | none => .ok current
  | some value =>
    match Binary64.ofString? (Text.trim value) with
    | some x => .ok x
    | none => .error (.invalidEnv var value)

/-- The settings with the environment's overrides applied. -/
def withOverrides (s : Settings) (env : Environment) : Except SettingsError Settings := do
  let t := s.tolerances
  let symprec ← overrideTolerance env "CALCTYPE_SYMPREC" t.symprec
  let ltol ← overrideTolerance env "CALCTYPE_LTOL" t.ltol
  let stol ← overrideTolerance env "CALCTYPE_STOL" t.stol
  let angleTol ← overrideTolerance env "CALCTYPE_ANGLE_TOL" t.angleTol
  let vaspRules := (env.lookup "CALCTYPE_VASP_RULES").orElse fun _ => s.vaspRules
  let cp2kRules := (env.lookup "CALCTYPE_CP2K_RULES").orElse fun _ => s.cp2kRules
  pure ⟨⟨symprec, ltol, stol, angleTol⟩, vaspRules, cp2kRules⟩

/-- Settings from an optional file read by `read`, then the environment. -/
def loadWith {m : Type → Type} [Monad m] (read : FileReader m) (config : Option String)
    (env : Environment) : m (Except SettingsError Settings) := do
  let base ← match config with
    | some path => ofRead path <$> read path
    | none => pure (.ok default)
  pure (base.bind fun s => s.withOverrides env)

/-- Settings from an optional file of the store, then the environment. -/
def load (store : FileStore) (config : Option String) (env : Environment) :
    Except SettingsError Settings :=
  Id.run (loadWith store.reader config env)

/-- A rule table from its location, read by `read`, or the bundled one of the
scheme. -/
def loadTableWith {m : Type → Type} [Monad m] (read : FileReader m) (location : Option String)
    (scheme : Scheme) : m (Except SettingsError RuleTable) :=
  match location with
  | some path => (fun r => (RuleTable.ofRead path scheme r).mapError .rules) <$> read path
  | none => pure ((RuleTable.bundled scheme).mapError .rules)

/-- The rule tables the settings select, VASP first; the CP2K table is not
read when the VASP table fails. -/
def ruleTablesWith {m : Type → Type} [Monad m] (s : Settings) (read : FileReader m) :
    m (Except SettingsError RuleTables) := do
  match ← loadTableWith read s.vaspRules Scheme.vasp with
  | .error e => pure (.error e)
  | .ok vasp =>
    let cp2k ← loadTableWith read s.cp2kRules Scheme.cp2k
    pure (cp2k.map fun c => ⟨vasp, c, s.vaspRules.isNone, s.cp2kRules.isNone⟩)

/-- The rule tables the settings select from files of the store. -/
def ruleTables (s : Settings) (store : FileStore) : Except SettingsError RuleTables :=
  Id.run (s.ruleTablesWith store.reader)

end Settings

end DftTaxonomy
