import DftTaxonomy.Datum.Basic
import DftTaxonomy.Decimal.Layout

/-!
# The display text of a datum

`Datum.text` is the string a datum turns into where only a string will do: as
a map key, and as the lenient stand-in for a value with no JSON form.  The
spellings are those of a scripting language's `str`: `None`, `True`, `False`,
`nan`, `inf`, a `.0` on an integral double below `10 ^ 16`, byte strings as
`b'...'` literals.
-/

namespace DftTaxonomy

namespace Datum

/-- Doubles in display text: always positional, with `.0` on an integral value
below `10 ^ 16` and no exponent; of two shortest decimals equally near the
double, the one farther from zero. -/
def floatLayout : Decimal.Layout := ⟨none, none, some 16, false, .away⟩

/-- The display text of a double; NaN and the infinities by name. -/
def floatText (x : Binary64) : String :=
  if x.isNaN then "nan"
  else match floatLayout.render x with
    | some text => text
    | none => if x.negative then "-inf" else "inf"

/-- One byte inside a byte-string literal: tab, return, newline, quotes and
backslash by their escapes, other printable ASCII as itself, the rest as
`\xNN`. -/
def byteEscape (b : UInt8) : List Char :=
  let n := b.toNat
  if n = 9 then ['\\', 't']
  else if n = 13 then ['\\', 'r']
  else if n = 10 then ['\\', 'n']
  else if n = 39 then ['\\', Char.ofNat 39]
  else if n = 34 then ['\\', '"']
  else if n = 92 then ['\\', '\\']
  else if 32 ≤ n ∧ n < 127 then [Char.ofNat n]
  else ['\\', 'x', ObjectId.hexDigit (n / 16), ObjectId.hexDigit (n % 16)]

/-- A byte string as a literal: `b'`, the escaped bytes, `'`. -/
def bytesText (data : List UInt8) : String :=
  "b'" ++ String.ofList (data.flatMap byteEscape) ++ "'"

/-- The display text of a datum; a container is named by its kind. -/
def text : Datum → String
  | .null => "None"
  | .bool true => "True"
  | .bool false => "False"
  | .int i => toString i
  | .float x => floatText x
  | .str s => s
  | .bytes data => bytesText data
  | .instant t => t.plain
  | .objectId id => id.toHex
  | .member value => value
  | .shown _ text => text
  | d@(.seq _) | d@(.floats _) | d@(.ints _) | d@(.map _) | d@(.record _) => d.kind

end Datum

end DftTaxonomy
