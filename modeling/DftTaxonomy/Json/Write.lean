import DftTaxonomy.Json.Basic
import DftTaxonomy.Decimal.Layout

/-!
# Writing JSON text

`Json.compact` writes a value on one line with no blanks; `Json.pretty`
indents nested arrays and objects by two spaces a level, one item per line,
with `": "` between a key and its value and `[]`, `{}` for empty containers.

Strings escape the quote and the backslash, write `\b \f \n \r \t` for those
controls and `\u00xx` (lower-case hexadecimal) for the other controls below
space; every other character, non-ASCII included, is written as itself.
Doubles are written by `Json.numberLayout`.
-/

namespace DftTaxonomy

namespace Json

/-- Doubles in JSON text: shortest digits (of two equally near, the one with
an even last digit), positional from `1e-5` up to but not including `1e16`
with `.0` on integral values, otherwise one digit, a point and the rest, then
`e`, a sign (`+` for a non-negative exponent) and the exponent. -/
def numberLayout : Decimal.Layout where
  exponentBelow := some (-5)
  exponentFrom := some 16
  pointBelow := some 16
  plusSign := true
  tie := .even

/-- A lower-case hexadecimal digit. -/
def hexChar (n : Nat) : Char := "0123456789abcdef".toList.getD n '0'

/-- One character inside a JSON string. -/
def escapeChar (c : Char) : String :=
  match c with
  | '"' => "\\\""
  | '\\' => "\\\\"
  | '\x08' => "\\b"
  | '\x0c' => "\\f"
  | '\n' => "\\n"
  | '\r' => "\\r"
  | '\t' => "\\t"
  | _ =>
    if c.toNat < 0x20 then
      "\\u00" ++ String.singleton (hexChar (c.toNat / 16)) ++ String.singleton (hexChar (c.toNat % 16))
    else String.singleton c

/-- A string as a JSON string literal. -/
def quote (s : String) : String :=
  "\"" ++ String.join (s.toList.map escapeChar) ++ "\""

/-- A number as JSON text; a double without digits (which a JSON value never
holds) is written `null`. -/
def numberText : Number → String
  | .int i => toString i
  | .float x => (numberLayout.render x).getD "null"

mutual

/-- A value on one line, without blanks. -/
def compact : Json → String
  | .null => "null"
  | .bool true => "true"
  | .bool false => "false"
  | .num n => numberText n
  | .str s => quote s
  | .arr xs => "[" ++ compactItems xs ++ "]"
  | .obj es => "\x7b" ++ compactEntries es ++ "\x7d"

/-- Array items separated by commas. -/
def compactItems : List Json → String
  | [] => ""
  | [x] => compact x
  | x :: xs => compact x ++ "," ++ compactItems xs

/-- Object entries separated by commas. -/
def compactEntries : List (String × Json) → String
  | [] => ""
  | [(k, v)] => quote k ++ ":" ++ compact v
  | (k, v) :: es => quote k ++ ":" ++ compact v ++ "," ++ compactEntries es

end

/-- Two spaces for each level. -/
def indent (level : Nat) : String := String.ofList (List.replicate (2 * level) ' ')

mutual

/-- A value indented from `level`, one item per line. -/
def prettyAt : Nat → Json → String
  | level, .arr (x :: xs) =>
    "[\n" ++ prettyItems (level + 1) (x :: xs) ++ "\n" ++ indent level ++ "]"
  | level, .obj (e :: es) =>
    "\x7b\n" ++ prettyEntries (level + 1) (e :: es) ++ "\n" ++ indent level ++ "\x7d"
  | _, v => compact v

/-- Array items, each on its own line at `level`. -/
def prettyItems : Nat → List Json → String
  | _, [] => ""
  | level, [x] => indent level ++ prettyAt level x
  | level, x :: xs => indent level ++ prettyAt level x ++ ",\n" ++ prettyItems level xs

/-- Object entries, each on its own line at `level`. -/
def prettyEntries : Nat → List (String × Json) → String
  | _, [] => ""
  | level, [(k, v)] => indent level ++ quote k ++ ": " ++ prettyAt level v
  | level, (k, v) :: es =>
    indent level ++ quote k ++ ": " ++ prettyAt level v ++ ",\n" ++ prettyEntries level es

end

/-- A value indented by two spaces a level. -/
def pretty (v : Json) : String := prettyAt 0 v

end Json

end DftTaxonomy
