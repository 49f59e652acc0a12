import DftTaxonomy.Json.Basic
import DftTaxonomy.Instant
import DftTaxonomy.ObjectId
import DftTaxonomy.Tensor

/-!
# Data to be made JSON-safe

A `Datum` is any value a calculation document may hold before it is stored:
plain JSON-like data, the scalars a document database keeps natively (instants,
byte strings, object ids), numeric tensors, maps with keys of any kind, and
values known only through a capability: an enumeration member through its
value, a record through its fields, and anything else through its type name
and display text.

* `Datum.kind` names the shape of a datum, as error messages say it.
* `Datum.ofJson` reads a JSON value as data: integers of the signed 64-bit
  range stay integers, every other number becomes a double.
-/

namespace DftTaxonomy

/-- A value of a calculation document, before sanitizing. -/
inductive Datum where
  | null
  | bool (value : Bool)
  | int (value : Int)
  | float (value : Binary64)
  | str (value : String)
  | bytes (data : List UInt8)
  | instant (moment : Instant)
  | objectId (id : ObjectId)
  | seq (items : List Datum)
  | floats (tensor : Tensor Binary64)
  | ints (tensor : Tensor Int)
  | map (entries : List (Datum × Datum))
  /-- An enumeration member, known by its value. -/
  | member (value : String)
  /-- A record, known by its fields in order; a field may repeat. -/
  | record (fields : List (String × Datum))
  /-- A value with no structured form, known by its type name and display
  text. -/
  | shown (typeName text : String)

namespace Datum

/-- The name of a datum's shape. -/
def kind : Datum → String
  | .null => "null"
  | .bool _ => "bool"
  | .int _ => "int"
  | .float _ => "float"
  | .str _ => "str"
  | .bytes _ => "bytes"
  | .instant _ => "datetime"
  | .objectId _ => "object id"
  | .seq _ => "sequence"
  | .floats _ | .ints _ => "array"
  | .map _ => "map"
  | .member _ => "enum"
  | .record _ => "object"
  | .shown _ _ => "opaque"

/-- Whether the datum is a container, which cannot be a map key. -/
def isComposite : Datum → Bool
  | .seq _ | .floats _ | .ints _ | .map _ | .record _ => true
  | _ => false

/-- The least and greatest signed 64-bit integers. -/
def int64Min : Int := -9223372036854775808
def int64Max : Int := 9223372036854775807

/-- A JSON number as a datum: an integer of the signed 64-bit range, else a
double. -/
def ofNumber : Number → Datum
  | .int i => if int64Min ≤ i ∧ i ≤ int64Max then .int i else .float (Binary64.ofInt i)
  | .float x => .float x

mutual

/-- A JSON value as a datum; an object becomes a map with string keys, in
order. -/
def ofJson : Json → Datum
  | .null => .null
  | .bool b => .bool b
  | .num n => ofNumber n
  | .str s => .str s
  | .arr items => .seq (ofJsonItems items)
  | .obj entries => .map (ofJsonEntries entries)

/-- The items of a JSON array as data. -/
def ofJsonItems : List Json → List Datum
  | [] => []
  | v :: rest => ofJson v :: ofJsonItems rest

/-- The entries of a JSON object as string-keyed data. -/
def ofJsonEntries : List (String × Json) → List (Datum × Datum)
  | [] => []
  | (k, v) :: rest => (.str k, ofJson v) :: ofJsonEntries rest

end

end Datum

end DftTaxonomy
