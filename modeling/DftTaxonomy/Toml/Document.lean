import DftTaxonomy.Binary64.Basic

/-!
# TOML values and documents

The values a TOML document holds: strings, 64-bit integers, doubles (the
infinities and NaN included), booleans, date-times, arrays and tables.  A
table's entries keep their document order.  Date-times are kept as their text:
nothing in this library reads inside them.

While a document is read, each table remembers how it came to be: written
with a `[header]`, made *implicitly* as the parent of a header or dotted key,
or made by a *dotted* key.  The rules of TOML on defining a table once are
rules on those marks:

* a dotted key may pass through a table only if that table is implicit, and
  may add keys only to a table made by dotted keys (or to the section's own
  table);
* a header may define a table only if it is new or was made implicitly by a
  header, and then the table moves to where it is defined;
* a key is defined once; a value that is not a table is never entered.

An array of tables (`[[header]]`) is entered through its last table.
`Toml.Node.freeze` turns the assembled tables into plain `TomlValue`s.
-/

namespace DftTaxonomy

/-- A value of a TOML document. -/
inductive TomlValue where
  | string (value : String)
  | integer (value : Int)
  | float (value : Binary64)
  | boolean (value : Bool)
  | datetime (text : String)
  | array (items : List TomlValue)
  | table (entries : List (String × TomlValue))
  deriving Inhabited

/-- The name of a value's kind, as TOML calls it. -/
def TomlValue.kind : TomlValue → String
  | .string _ => "string"
  | .integer _ => "integer"
  | .float _ => "float"
  | .boolean _ => "boolean"
  | .datetime _ => "datetime"
  | .array _ => "array"
  | .table _ => "table"

namespace Toml

/-- A document entry while the document is read. -/
inductive Node where
  /-- A finished value, inline tables included. -/
  | value (v : TomlValue)
  /-- A table with its entries, and whether it was made implicitly and
  whether it was made by a dotted key. -/
  | table (entries : List (String × Node)) (implicit dotted : Bool)
  /-- An array of tables, in order. -/
  | tables (items : List (List (String × Node)))
  deriving Inhabited

/-- The entries of a table under construction. -/
abbrev Entries := List (String × Node)

/-- The entry under `key`, if any. -/
def find? (key : String) : Entries → Option Node
  | [] => none
  | (k, n) :: rest => if k == key then some n else find? key rest

/-- Put `node` in place of the entry under `key`. -/
def replace (key : String) (node : Node) : Entries → Entries
  | [] => []
  | (k, n) :: rest => if k == key then (key, node) :: rest else (k, n) :: replace key node rest

/-- Remove the entry under `key`, keeping the others in order. -/
def remove (key : String) : Entries → Entries
  | [] => []
  | (k, n) :: rest => if k == key then rest else (k, n) :: remove key rest

/-- Change the table at `path` below `es` by `f`, which also sees whether that
table was made by a dotted key.  Missing tables are made implicitly (and
dotted, when `dotted`); an array of tables is entered through its last table;
a dotted key may not pass through a table that is not implicit. -/
def descend {α : Type} (dotted : Bool) (f : Bool → Entries → Option (Entries × α)) :
    List String → Bool → Entries → Option (Entries × α)
  | [], here, es => f here es
  | k :: ks, _, es =>
    match find? k es with
    | none => do
      let (sub, a) ← descend dotted f ks dotted []
      pure (es ++ [(k, .table sub true dotted)], a)
    | some (.value _) => none
    | some (.tables ts) =>
      match ts.getLast? with
      | none => none
      | some last => do
        let (sub, a) ← descend dotted f ks false last
        pure (replace k (.tables (ts.dropLast ++ [sub])) es, a)
    | some (.table sub implicit isDotted) =>
      if dotted && !implicit then none
      else do
        let (sub', a) ← descend dotted f ks isDotted sub
        pure (replace k (.table sub' implicit isDotted) es, a)

/-- Add `key = node` under the dotted `path` of the section's table `es`. -/
def addKeyValue (path : List String) (key : String) (node : Node) (es : Entries) :
    Option Entries :=
  let put (isDotted : Bool) (target : Entries) : Option (Entries × Unit) :=
    if isDotted == path.isEmpty then none
    else if (find? key target).isSome then none
    else some (target ++ [(key, node)], ())
  (descend true put path false es).map (·.1)

/-- Add `key = node` under the dotted `path` of an inline table's entries.
A dotted key passes only through tables that dotted keys of the same inline
table made; an inline table written as a value is complete and is not entered. -/
def addInline (path : List String) (key : String) (node : Node) : Entries → Option Entries
  | es =>
    let rec go : List String → Bool → Entries → Option Entries
      | [], isDotted, target =>
        if isDotted == path.isEmpty then none
        else if (find? key target).isSome then none
        else some (target ++ [(key, node)])
      | k :: ks, _, target =>
        match find? k target with
        | none => do
          let sub ← go ks true []
          pure (target ++ [(k, .table sub true true)])
        | some (.table sub implicit isDotted) =>
          if !implicit then none
          else do
            let sub' ← go ks isDotted sub
            pure (replace k (.table sub' implicit isDotted) target)
        | some _ => none
    go path false es

/-- The section being read: its table's entries, the header path (empty for
the top of the document) and whether the header is an array-of-tables one. -/
structure Section where
  entries : Entries
  path : List String
  isArray : Bool

/-- A document being read: the tables so far and the open section. -/
structure Assembly where
  root : Entries
  current : Section

/-- The start of a document: nothing read, the top section open. -/
def Assembly.empty : Assembly := ⟨[], ⟨[], [], false⟩⟩

/-- Close the open section, putting its table where its header says. -/
def Assembly.close (a : Assembly) : Option Entries :=
  let s := a.current
  match s.path.reverse with
  | [] => some s.entries
  | key :: parentRev =>
    let parent := parentRev.reverse
    let place (_ : Bool) (es : Entries) : Option (Entries × Unit) :=
      if s.isArray then
        match find? key es with
        | none => some (es ++ [(key, .tables [s.entries])], ())
        | some (.tables ts) => some (replace key (.tables (ts ++ [s.entries])) es, ())
        | some _ => none
      else
        match find? key es with
        | none => some (es ++ [(key, .table s.entries false false)], ())
        | some (.table _ true _) => some (replace key (.table s.entries false false) es, ())
        | some _ => none
    (descend false place parent false a.root).map (·.1)

/-- Open a `[path]` section after closing the current one.  A table made
implicitly by an earlier header is taken out of its parent, to be put back
when this section closes. -/
def Assembly.openTable (a : Assembly) (path : List String) : Option Assembly := do
  let root ← a.close
  match path.reverse with
  | [] => none
  | key :: parentRev =>
    let take (_ : Bool) (es : Entries) : Option (Entries × Entries) :=
      match find? key es with
      | none => some (es, [])
      | some (.table sub true false) => some (remove key es, sub)
      | some _ => none
    let (root', entries) ← descend false take parentRev.reverse false root
    pure ⟨root', ⟨entries, path, false⟩⟩

/-- Open a `[[path]]` section after closing the current one; the array is made
at once if it is new. -/
def Assembly.openArrayTable (a : Assembly) (path : List String) : Option Assembly := do
  let root ← a.close
  match path.reverse with
  | [] => none
  | key :: parentRev =>
    let make (_ : Bool) (es : Entries) : Option (Entries × Unit) :=
      match find? key es with
      | none => some (es ++ [(key, .tables [])], ())
      | some (.tables _) => some (es, ())
      | some _ => none
    let (root', _) ← descend false make parentRev.reverse false root
    pure ⟨root', ⟨[], path, true⟩⟩

/-- Add `key = value` under `path` in the open section. -/
def Assembly.add (a : Assembly) (path : List String) (key : String) (node : Node) :
    Option Assembly := do
  let entries ← addKeyValue path key node a.current.entries
  pure { a with current := { a.current with entries := entries } }

mutual

/-- A node as a plain value. -/
def Node.freeze : Node → TomlValue
  | .value v => v
  | .table es _ _ => .table (freezeEntries es)
  | .tables ts => .array (freezeTables ts)

/-- Entries as plain entries. -/
def freezeEntries : Entries → List (String × TomlValue)
  | [] => []
  | (k, n) :: rest => (k, n.freeze) :: freezeEntries rest

/-- An array of tables as plain tables. -/
def freezeTables : List Entries → List TomlValue
  | [] => []
  | es :: rest => .table (freezeEntries es) :: freezeTables rest

end

end Toml

end DftTaxonomy
