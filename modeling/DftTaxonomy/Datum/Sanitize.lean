import DftTaxonomy.Datum.Text
import DftTaxonomy.Clean

/-!
# Sanitizing data

`Datum.sanitize` turns a datum into a JSON-safe tree, part by part:

* sequences and tensors become (nested) lists, an integer tensor keeping its
  integers and a tensor of no dimensions becoming its single entry;
* a map becomes a string-keyed map, each key replaced by its display text; a
  key that is a container is refused, and keys with the same text merge, the
  first position kept and the last value taken;
* an enumeration member becomes its value and a record the map of its fields;
* numbers, booleans, null and strings stay as they are;
* instants, byte strings and object ids pass unchanged when the mode keeps
  database scalars; otherwise these and values with no structured form become
  their display text, or an error in strict mode.

Parts are taken in order, a map's key before its value, so the first fault met
in that order is the one reported.
-/

namespace DftTaxonomy

/-- How a datum with no JSON form is treated. -/
structure SanitizeMode where
  /-- Refuse a value with no structured form instead of writing its text. -/
  strict : Bool
  /-- Keep instants, byte strings and object ids as they are. -/
  keepScalars : Bool
  deriving DecidableEq, Repr

/-- Why a datum cannot be sanitized. -/
inductive SanitizeError where
  /-- Strict mode met a value with no structured form. -/
  | notSerializable (typeName : String)
  /-- A container was used as a map key. -/
  | unhashableKey (kind : String)
  deriving DecidableEq, Repr

namespace SanitizeError

/-- The error as a sentence. -/
def message : SanitizeError → String
  | .notSerializable typeName =>
    "value of type `" ++ typeName ++ "` cannot be converted to a dictionary"
  | .unhashableKey kind => "unhashable mapping key of kind `" ++ kind ++ "`"

end SanitizeError

namespace Datum

/-- The text of a map key; a container is refused. -/
def keyText (key : Datum) : Except SanitizeError String :=
  if key.isComposite then .error (.unhashableKey key.kind) else .ok key.text

/-- A value with no structured form: its text, or an error in strict mode
naming its type. -/
def unstructured (mode : SanitizeMode) : Datum → Except SanitizeError Clean
  | d@(.shown typeName _) =>
    if mode.strict then .error (.notSerializable typeName) else .ok (.str d.text)
  | d => if mode.strict then .error (.notSerializable d.kind) else .ok (.str d.text)

mutual

/-- The JSON-safe tree of a datum under `mode`. -/
def sanitize (mode : SanitizeMode) : Datum → Except SanitizeError Clean
  | .null => .ok .null
  | .bool b => .ok (.bool b)
  | .int i => .ok (.int i)
  | .float x => .ok (.float x)
  | .str s => .ok (.str s)
  | .seq items => .list <$> sanitizeItems mode items
  | .floats t => .ok (t.nest Clean.float Clean.list)
  | .ints t => .ok (t.nest Clean.int Clean.list)
  | .member value => .ok (.str value)
  | .map entries => .map <$> sanitizeEntries mode entries []
  | .record fields => .map <$> sanitizeFields mode fields []
  | d@(.instant t) => if mode.keepScalars then .ok (.instant t) else unstructured mode d
  | d@(.bytes data) => if mode.keepScalars then .ok (.bytes data) else unstructured mode d
  | d@(.objectId id) => if mode.keepScalars then .ok (.objectId id) else unstructured mode d
  | d@(.shown _ _) => unstructured mode d

/-- The trees of sequence items, in order. -/
def sanitizeItems (mode : SanitizeMode) : List Datum → Except SanitizeError (List Clean)
  | [] => .ok []
  | d :: rest => do
    let c ← sanitize mode d
    let cs ← sanitizeItems mode rest
    pure (c :: cs)

/-- Map entries added to `acc` in order, each key as its text. -/
def sanitizeEntries (mode : SanitizeMode) :
    List (Datum × Datum) → List (String × Clean) → Except SanitizeError (List (String × Clean))
  | [], acc => .ok acc
  | (k, v) :: rest, acc => do
    let key ← keyText k
    let c ← sanitize mode v
    sanitizeEntries mode rest (insertEntry key c acc)

/-- Record fields added to `acc` in order. -/
def sanitizeFields (mode : SanitizeMode) :
    List (String × Datum) → List (String × Clean) → Except SanitizeError (List (String × Clean))
  | [], acc => .ok acc
  | (k, v) :: rest, acc => do
    let c ← sanitize mode v
    sanitizeFields mode rest (insertEntry k c acc)

end

end Datum

end DftTaxonomy
