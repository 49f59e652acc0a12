import DftTaxonomy.Rules.Table
import DftTaxonomy.Toml.Read
import DftTaxonomy.Files

/-!
# Loading rule tables

A rule table is written in TOML: each top-level key is a class, each key of a
class is a special type, and each key of a special type is a required
parameter.  `RuleTable.load` checks the shape in document order and stops at
the first fault:

* each class is a table with at least one special type;
* each special type is a table with at least one requirement;
* each requirement is a string, an integer, a finite float, a boolean, or an
  array of such values, nested to any depth;
* every class of the scheme's priority list is declared (the first missing one
  in priority order is reported).

A one-item array requirement is stored as its item, as parameters are read
that way too.  `RuleTable.read` loads a table from a file of a store, naming it
by its path.
-/

namespace DftTaxonomy

/-- A fault in the shape of a rule table. -/
inductive TableFault where
  /-- A class is not a table. -/
  | classNotTable (cls : String)
  /-- A class has no special types. -/
  | classEmpty (cls : String)
  /-- A special type is not a table. -/
  | typeNotTable (cls name : String)
  /-- A special type has no requirements. -/
  | typeEmpty (cls name : String)
  /-- A requirement's value is of a kind no parameter can be compared with. -/
  | unsupported (cls name param kind : String)

/-- The words for a shape fault. -/
def TableFault.message : TableFault → String
  | .classNotTable c => "class `" ++ c ++ "` must be a table"
  | .classEmpty c => "class `" ++ c ++ "` declares no special types"
  | .typeNotTable c r => "special type `" ++ c ++ "." ++ r ++ "` must be a table"
  | .typeEmpty c r => "special type `" ++ c ++ "." ++ r ++ "` has no requirements"
  | .unsupported c r p kind => "`" ++ c ++ "." ++ r ++ "." ++ p ++ "` has unsupported type " ++ kind

/-- Why a rule table cannot be loaded. -/
inductive RuleTableError where
  /-- The file cannot be read. -/
  | io (path : String) (cause : FileError)
  /-- The text is not TOML. -/
  | parse (origin : String)
  /-- The TOML is not shaped as a rule table. -/
  | malformed (origin : String) (fault : TableFault)
  /-- A class the scheme requires is not declared. -/
  | missingClass (origin cls : String)

/-- The words for a load failure. -/
def RuleTableError.message : RuleTableError → String
  | .io path cause => "cannot read rule table " ++ path ++ ": " ++ cause.message
  | .parse origin => origin ++ ": TOML parse error"
  | .malformed origin fault => origin ++ ": " ++ fault.message
  | .missingClass origin c => origin ++ ": functional class `" ++ c ++ "` is required but not declared"

mutual

/-- A requirement as a JSON value: scalars and arrays of them, finite floats
only. -/
def requirementValue? : TomlValue → Option Json
  | .string s => some (.str s)
  | .integer i => some (.num (.int i))
  | .float x => if x.isFinite then some (.num (.float x)) else none
  | .boolean b => some (.bool b)
  | .datetime _ => none
  | .table _ => none
  | .array items => (requirementItems? items).map .arr

/-- Every item of an array requirement as a JSON value. -/
def requirementItems? : List TomlValue → Option (List Json)
  | [] => some []
  | v :: rest => do
    let j ← requirementValue? v
    let js ← requirementItems? rest
    pure (j :: js)

end

namespace RuleTable

/-- One special type of class `cls`. -/
def readRule (cls : String) : String × TomlValue → Except TableFault Rule
  | (name, .table params) =>
    if params.isEmpty then .error (.typeEmpty cls name)
    else do
      let requires ← params.mapM fun (param, v) =>
        match requirementValue? v with
        | some j => .ok (param, j.unwrapSingleton)
        | none => .error (.unsupported cls name param v.kind)
      pure ⟨name, requires⟩
  | (name, _) => .error (.typeNotTable cls name)

/-- One class. -/
def readClass : String × TomlValue → Except TableFault FunctionalClass
  | (cls, .table types) =>
    if types.isEmpty then .error (.classEmpty cls)
    else do
      let rules ← types.mapM (readRule cls)
      pure ⟨cls, rules⟩
  | (cls, _) => .error (.classNotTable cls)

/-- A rule table from a TOML document's top-level table. -/
def ofDocument (origin : String) (doc : List (String × TomlValue)) (scheme : Scheme) :
    Except RuleTableError RuleTable :=
  match doc.mapM readClass with
  | .error fault => .error (.malformed origin fault)
  | .ok classes =>
    let missing := (scheme.priority.getD []).find? fun name => !classes.any (·.name == name)
    match missing with
    | some name => .error (.missingClass origin name)
    | none => .ok ⟨origin, scheme, classes⟩

/-- A rule table from TOML text; `origin` names it in messages. -/
def load (origin text : String) (scheme : Scheme) : Except RuleTableError RuleTable :=
  match Toml.parse? text with
  | none => .error (.parse origin)
  | some doc => ofDocument origin doc scheme

/-- A rule table from the outcome of reading the file at `path`, named by the
path. -/
def ofRead (path : String) (scheme : Scheme) : Except FileError String → Except RuleTableError RuleTable
  | .error cause => .error (.io path cause)
  | .ok text => load path text scheme

/-- A rule table from a file of the store, named by its path. -/
def read (store : FileStore) (path : String) (scheme : Scheme) : Except RuleTableError RuleTable :=
  ofRead path scheme (store.read path)

end RuleTable

end DftTaxonomy
