import DftTaxonomy.Toml.Scalar

/-!
# Date-times written as tables

A table inside a document whose first key is the reserved key
`Toml.datetimeKey` stands for a date-time: its value under that key must be a
string holding a date-time, and the table then reads as that date-time, the
keys after the first unread.  A reserved key with any other value makes the
document unreadable.  The document's own top-level table is a plain table:
there the reserved key is an ordinary key.

`TomlValue.resolveEntries?` applies the rule to every value of a document, at any
depth, in arrays as in tables.
-/

namespace DftTaxonomy

namespace Toml

/-- The key that marks a table as a date-time. -/
def datetimeKey : String := "$__toml_private_datetime"

/-- Whether a text is a whole date-time: a local time, or a full date
optionally followed by `T`, `t` or a space and a time with an optional offset.
A text whose third character is a colon is read as a local time. -/
def isDatetimeText (cs : List Char) : Bool :=
  if (cs.drop 2).head? == some ':' then isPartialTime cs
  else
    isFullDate (cs.take 10) &&
      match cs.drop 10 with
      | [] => true
      | sep :: time => (sep == 'T' || sep == 't' || sep == ' ') && isTimeWithOffset time

/-- What a table marked by `datetimeKey` reads as: the date-time its string
names, or `none` when the value is not a date-time string. -/
def markedDatetime? : TomlValue → Option TomlValue
  | .string s => if isDatetimeText s.toList then some (.datetime s) else none
  | _ => none

end Toml

mutual

/-- A value with every marked table inside it read as its date-time, or `none`
when a marked table holds no date-time. -/
def TomlValue.resolve? : TomlValue → Option TomlValue
  | .array items => (TomlValue.resolveItems? items).map .array
  | .table [] => some (.table [])
  | .table ((k, v) :: rest) =>
    if k == Toml.datetimeKey then Toml.markedDatetime? v
    else (TomlValue.resolveEntries? ((k, v) :: rest)).map .table
  | v => some v

/-- The items of an array, each resolved. -/
def TomlValue.resolveItems? : List TomlValue → Option (List TomlValue)
  | [] => some []
  | v :: rest => do
    let v ← v.resolve?
    let rest ← TomlValue.resolveItems? rest
    pure (v :: rest)

/-- The entries of a table, each value resolved; the keys themselves are
not looked at. -/
def TomlValue.resolveEntries? : List (String × TomlValue) → Option (List (String × TomlValue))
  | [] => some []
  | (k, v) :: rest => do
    let v ← v.resolve?
    let rest ← TomlValue.resolveEntries? rest
    pure ((k, v) :: rest)

end

end DftTaxonomy
