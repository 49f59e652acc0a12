import DftTaxonomy.Json.Write
import DftTaxonomy.Instant
import DftTaxonomy.ObjectId

/-!
# JSON-safe trees

A `Clean` value is what sanitizing leaves: JSON data with string-keyed maps in
insertion order, and possibly the three scalars a document database stores
natively.  It has two JSON views, one traversal (`Clean.render`) with two
choices, the text of an instant and the making of an object from a map's
entries:

* `Clean.toJson` is the JSON value: an instant as RFC 3339 text with offset
  `+00:00`, and each map collected into an object, where a repeated key keeps
  its first place and takes its last value;
* `Clean.serialize` is the compact text of the tree: an instant with offset
  `Z`, and every entry of a map written in order, a repeated key as often as
  it occurs; `Clean.serializePretty` is the same text indented.

In both, bytes are a list of numbers, an object id is its lower-case digits,
and a NaN or infinite double is `null`.
-/

namespace DftTaxonomy

/-- A sanitized value. -/
inductive Clean where
  | null
  | bool (value : Bool)
  | int (value : Int)
  | float (value : Binary64)
  | str (value : String)
  | list (items : List Clean)
  | map (entries : List (String × Clean))
  | instant (moment : Instant)
  | bytes (data : List UInt8)
  | objectId (id : ObjectId)

namespace Clean

mutual

/-- The JSON form of a sanitized value, with `stamp` writing instants and
`object` making an object of a map's entries. -/
def render (stamp : Instant → String) (object : List (String × Json) → Json) : Clean → Json
  | .null => .null
  | .bool b => .bool b
  | .int i => .num (.int i)
  | .float x => if x.isFinite then .num (.float x) else .null
  | .str s => .str s
  | .list items => .arr (renderItems stamp object items)
  | .map entries => object (renderEntries stamp object entries)
  | .instant t => .str (stamp t)
  | .bytes data => .arr (data.map fun b => .num (.int b.toNat))
  | .objectId id => .str id.toHex

/-- The JSON forms of list items. -/
def renderItems (stamp : Instant → String) (object : List (String × Json) → Json) :
    List Clean → List Json
  | [] => []
  | v :: rest => render stamp object v :: renderItems stamp object rest

/-- The JSON forms of map entries, keys kept. -/
def renderEntries (stamp : Instant → String) (object : List (String × Json) → Json) :
    List (String × Clean) → List (String × Json)
  | [] => []
  | (k, v) :: rest => (k, render stamp object v) :: renderEntries stamp object rest

end

/-- The JSON value of a sanitized tree: instants as RFC 3339 with `+00:00`,
maps collected into objects. -/
def toJson (c : Clean) : Json := c.render Instant.rfc3339 Json.object

/-- The compact JSON text of a sanitized tree: instants as RFC 3339 with `Z`,
every map entry written. -/
def serialize (c : Clean) : String := (c.render Instant.zulu .obj).compact

/-- The same JSON text indented, two spaces a level. -/
def serializePretty (c : Clean) : String := (c.render Instant.zulu .obj).pretty

end Clean

end DftTaxonomy
