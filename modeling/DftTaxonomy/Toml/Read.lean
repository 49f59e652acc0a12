import DftTaxonomy.Toml.Scalar
import DftTaxonomy.Toml.Document
import DftTaxonomy.Toml.DatetimeTable

/-!
# Reading a TOML document

`Toml.parse?` reads a TOML 1.0 document into its top-level table, entries in
document order, or gives `none` when the text is not a valid document.

A document is a sequence of lines, each blank, a comment, a `key = value`
line or a table header (`[key]` or `[[key]]`), each ending in a line break or
the end of the text, with an optional comment before it.  Values are strings,
numbers, booleans, date-times, arrays (which may span lines and hold
comments, with an optional trailing comma) and inline tables (on one line,
without a trailing comma).  Arrays and inline tables nest fewer than
`nestingLimit` deep.  Tables are assembled as `Toml.Assembly` says.
-/

namespace DftTaxonomy

namespace Toml

/-- Blanks, comments and line breaks between array items. -/
def skipArrayTrivia : Nat → List Char → Option (List Char)
  | 0, cs => some cs
  | fuel + 1, cs =>
    match skipBlanks cs with
    | '#' :: rest =>
      match comment? ('#' :: rest) with
      | some after =>
        match lineBreak? after with
        | some next => skipArrayTrivia fuel next
        | none => if after.isEmpty then some [] else none
      | none => none
    | cs' =>
      match lineBreak? cs' with
      | some next => skipArrayTrivia fuel next
      | none => some cs'

mutual

/-- A value at its first character, inside `depth` arrays and inline tables;
an array or inline table that would lie `nestingLimit` deep is refused.  An
inline table comes back as a table node made neither implicitly nor by dotted
keys, so no dotted key can enter it. -/
def value? : Nat → Nat → List Char → Option (Node × List Char)
  | 0, _, _ => none
  | fuel + 1, depth, cs =>
    match cs with
    | '"' :: _ => (string? cs).map fun (s, rest) => (.value (.string s), rest)
    | '\'' :: _ => (string? cs).map fun (s, rest) => (.value (.string s), rest)
    | 't' :: 'r' :: 'u' :: 'e' :: rest => some (.value (.boolean true), rest)
    | 'f' :: 'a' :: 'l' :: 's' :: 'e' :: rest => some (.value (.boolean false), rest)
    | '[' :: rest => do
      if nestingLimit ≤ depth + 1 then none
      let start ← skipArrayTrivia (rest.length + 1) rest
      match start with
      | ']' :: after => pure (.value (.array []), after)
      | _ => items? fuel (depth + 1) start []
    | '\x7b' :: rest =>
      if nestingLimit ≤ depth + 1 then none
      else
        match skipBlanks rest with
        | '\x7d' :: after => some (.table [] false false, after)
        | _ => inlineEntries? fuel (depth + 1) rest []
    | c :: _ =>
      if c.isDigit || c == '+' || c == '-' || c == 'i' || c == 'n' then
        (numeric? cs).map fun (v, rest) => (.value v, rest)
      else none
    | [] => none

/-- Array items from the first character of an item, inside `depth` arrays
and inline tables; `acc` holds the items so far, last first. -/
def items? : Nat → Nat → List Char → List TomlValue → Option (Node × List Char)
  | 0, _, _, _ => none
  | fuel + 1, depth, cs, acc => do
    let (item, rest) ← value? fuel depth cs
    let after ← skipArrayTrivia (rest.length + 1) rest
    let acc := item.freeze :: acc
    match after with
    | ']' :: more => pure (.value (.array acc.reverse), more)
    | ',' :: more => do
      let next ← skipArrayTrivia (more.length + 1) more
      match next with
      | ']' :: end_ => pure (.value (.array acc.reverse), end_)
      | _ => items? fuel depth next acc
    | _ => none

/-- Inline table entries from the first key, inside `depth` arrays and inline
tables; `acc` holds the entries so far. -/
def inlineEntries? : Nat → Nat → List Char → Entries → Option (Node × List Char)
  | 0, _, _, _ => none
  | fuel + 1, depth, cs, acc => do
    let (path, afterKey) ← key? cs
    match afterKey with
    | '=' :: afterEq => do
      let (node, rest) ← value? fuel depth (skipBlanks afterEq)
      let (parents, key) ← match path.reverse with
        | k :: ps => some (ps.reverse, k)
        | [] => none
      let acc ← addInline parents key node acc
      match skipBlanks rest with
      | ',' :: more => inlineEntries? fuel depth more acc
      | '\x7d' :: more => pure (.table acc false false, more)
      | _ => none
    | _ => none

end

/-- A value written after `=` on a document line: an inline table is sealed,
so later lines cannot add to it. -/
def lineValue? (fuel : Nat) (cs : List Char) : Option (Node × List Char) :=
  (value? fuel 0 cs).map fun (node, rest) =>
    match node with
    | .table es _ _ => (.value (Node.freeze (.table es false false)), rest)
    | other => (other, rest)

/-- A header's key and what follows its closing bracket(s). -/
def header? (close : List Char) (cs : List Char) : Option (List String × List Char) := do
  let (path, rest) ← key? cs
  if rest.take close.length == close then
    let after ← lineEnd? (rest.drop close.length)
    pure (path, after)
  else none

/-- The document's lines from `cs` on, added to the assembly. -/
def lines? : Nat → List Char → Assembly → Option Entries
  | 0, _, _ => none
  | fuel + 1, cs, a =>
    match skipBlanks cs with
    | [] => a.close
    | '#' :: rest => do
      let after ← comment? ('#' :: rest)
      match after with
      | [] => a.close
      | _ =>
        match lineBreak? after with
        | some next => lines? fuel next a
        | none => none
    | '[' :: '[' :: rest => do
      let (path, after) ← header? [']', ']'] rest
      let a ← a.openArrayTable path
      lines? fuel after a
    | '[' :: rest => do
      let (path, after) ← header? [']'] rest
      let a ← a.openTable path
      lines? fuel after a
    | cs' =>
      match lineBreak? cs' with
      | some next => lines? fuel next a
      | none => do
        let (path, afterKey) ← key? cs'
        match afterKey with
        | '=' :: afterEq => do
          let (node, rest) ← lineValue? (afterEq.length + 1) (skipBlanks afterEq)
          let after ← lineEnd? rest
          let (parents, key) ← match path.reverse with
            | k :: ps => some (ps.reverse, k)
            | [] => none
          let a ← a.add parents key node
          lines? fuel after a
        | _ => none

/-- The top-level table of a TOML document, entries in document order, each
table marked as a date-time read as one. -/
def parse? (text : String) : Option (List (String × TomlValue)) :=
  let cs := match text.toList with
    | '\uFEFF' :: rest => rest
    | cs => cs
  (lines? (cs.length + 2) cs Assembly.empty).bind fun es => TomlValue.resolveEntries? (freezeEntries es)

end Toml

end DftTaxonomy
