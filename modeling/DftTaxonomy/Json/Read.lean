import DftTaxonomy.Json.Basic
import DftTaxonomy.Binary64.Arith

/-!
# Reading JSON text

`Json.parse?` reads one JSON value from a text, surrounded only by blanks
(space, tab, line feed, carriage return), and fails on anything else.

* Numbers: `-? (0 | [1-9][0-9]*) (. [0-9]+)? ([eE] [+-]? [0-9]+)?`.  Without a
  fraction or exponent a number is an integer when it fits: from `0` to
  `2 ^ 64 - 1`, or from `-2 ^ 63` to `-1`.  Any other number is a double,
  computed by the quick method (`number?`): not always the nearest one, but
  exactly the one fast JSON readers give; `-0` is the double negative zero,
  and a number too large for a double is refused.
* Strings: no raw control character; escapes `\" \\ \/ \b \f \n \r \t` and
  `\uXXXX`, where a surrogate pair makes one character and a lone surrogate is
  refused.
* Arrays and objects nest at most 127 deep.  An object's repeated key keeps
  its first place and takes its last value.
-/

namespace DftTaxonomy

namespace Json

/-- JSON's four blanks. -/
def isSpace (c : Char) : Bool := c == ' ' || c == '\t' || c == '\n' || c == '\r'

/-- The text after its leading blanks. -/
def skipSpace (cs : List Char) : List Char := cs.dropWhile isSpace

/-- The value of a hexadecimal digit. -/
def hexDigit? (c : Char) : Option Nat :=
  if '0' ≤ c ∧ c ≤ '9' then some (c.toNat - '0'.toNat)
  else if 'a' ≤ c ∧ c ≤ 'f' then some (c.toNat - 'a'.toNat + 10)
  else if 'A' ≤ c ∧ c ≤ 'F' then some (c.toNat - 'A'.toNat + 10)
  else none

/-- Four hexadecimal digits as a number. -/
def hex4? : List Char → Option (Nat × List Char)
  | a :: b :: c :: d :: rest => do
    let a ← hexDigit? a
    let b ← hexDigit? b
    let c ← hexDigit? c
    let d ← hexDigit? d
    pure (((a * 16 + b) * 16 + c) * 16 + d, rest)
  | _ => none

/-- The character of a `\u` escape, reading a second escape for a surrogate
pair; a lone surrogate is refused. -/
def unicodeEscape? (cs : List Char) : Option (Char × List Char) := do
  let (hi, rest) ← hex4? cs
  if 0xDC00 ≤ hi ∧ hi ≤ 0xDFFF then none
  else if 0xD800 ≤ hi ∧ hi ≤ 0xDBFF then
    match rest with
    | '\\' :: 'u' :: more => do
      let (lo, after) ← hex4? more
      if 0xDC00 ≤ lo ∧ lo ≤ 0xDFFF then
        pure (Char.ofNat (0x10000 + (hi - 0xD800) * 0x400 + (lo - 0xDC00)), after)
      else none
    | _ => none
  else pure (Char.ofNat hi, rest)

/-- A string's body after its opening quote, up to and past the closing
quote; `acc` holds the characters read so far, last first. -/
def stringBody : Nat → List Char → List Char → Option (String × List Char)
  | 0, _, _ => none
  | _ + 1, [], _ => none
  | fuel + 1, c :: rest, acc =>
    if c == '"' then some (String.ofList acc.reverse, rest)
    else if c.toNat < 0x20 then none
    else if c == '\\' then
      match rest with
      | '"' :: more => stringBody fuel more ('"' :: acc)
      | '\\' :: more => stringBody fuel more ('\\' :: acc)
      | '/' :: more => stringBody fuel more ('/' :: acc)
      | 'b' :: more => stringBody fuel more ('\x08' :: acc)
      | 'f' :: more => stringBody fuel more ('\x0c' :: acc)
      | 'n' :: more => stringBody fuel more ('\n' :: acc)
      | 'r' :: more => stringBody fuel more ('\r' :: acc)
      | 't' :: more => stringBody fuel more ('\t' :: acc)
      | 'u' :: more =>
        match unicodeEscape? more with
        | some (ch, after) => stringBody fuel after (ch :: acc)
        | none => none
      | _ => none
    else stringBody fuel rest (c :: acc)

/-- A string starting at its opening quote. -/
def string? (cs : List Char) : Option (String × List Char) :=
  match cs with
  | '"' :: rest => stringBody (rest.length + 1) rest []
  | _ => none

/-- The largest value of a significand: `2 ^ 64 - 1`. -/
def significandLimit : Nat := Nat.pow 2 64 - 1

/-- The largest exponent: `2 ^ 31 - 1`. -/
def exponentLimit : Nat := Nat.pow 2 31 - 1

/-- The value of a decimal digit. -/
def digitValue (c : Char) : Nat := c.toNat - '0'.toNat

/-- A number's digits so far: the significand, kept below `2 ^ 64`, and the
power of ten it is scaled by. -/
structure Digits where
  significand : Nat
  exponent : Int

/-- Integer digits once the significand is full: each one only raises the
exponent. -/
def skipIntegerDigits (acc : Digits) : List Char → Digits × List Char
  | c :: rest => if c.isDigit then skipIntegerDigits ⟨acc.significand, acc.exponent + 1⟩ rest else (acc, c :: rest)
  | [] => (acc, [])

/-- Integer digits: appended to the significand while it stays below `2 ^ 64`;
from the first digit that would not fit on, each raises the exponent.  The
flag tells whether the significand filled up. -/
def integerDigits (acc : Digits) : List Char → Digits × Bool × List Char
  | c :: rest =>
    if c.isDigit then
      if acc.significand * 10 + digitValue c ≤ significandLimit then
        integerDigits ⟨acc.significand * 10 + digitValue c, acc.exponent⟩ rest
      else
        let (d, after) := skipIntegerDigits acc (c :: rest)
        (d, true, after)
    else (acc, false, c :: rest)
  | [] => (acc, false, [])

/-- Fraction digits: appended to the significand, each lowering the exponent,
until one would not fit; that digit and the rest are dropped. -/
def fractionDigits (acc : Digits) : List Char → Digits × List Char
  | c :: rest =>
    if c.isDigit then
      if acc.significand * 10 + digitValue c ≤ significandLimit then
        fractionDigits ⟨acc.significand * 10 + digitValue c, acc.exponent - 1⟩ rest
      else (acc, (c :: rest).dropWhile Char.isDigit)
    else (acc, c :: rest)
  | [] => (acc, [])

/-- The digits of an exponent, with its value while it stays within
`2 ^ 31 - 1`; `none` for the value once a digit would pass that. -/
def exponentDigits (acc : Option Nat) : List Char → Option Nat × List Char
  | c :: rest =>
    if c.isDigit then
      match acc with
      | some e =>
        if e * 10 + digitValue c ≤ exponentLimit then exponentDigits (some (e * 10 + digitValue c)) rest
        else exponentDigits none rest
      | none => exponentDigits none rest
    else (acc, c :: rest)
  | [] => (acc, [])

/-- `a + b` held within the 32-bit signed range. -/
def saturatingAdd (a b : Int) : Int :=
  max (-(exponentLimit : Int) - 1) (min (exponentLimit : Int) (a + b))

/-- The integer part of a number: `0` alone or a digit run not starting
with `0`. -/
def integerPart? (cs : List Char) : Option (Digits × Bool × List Char) :=
  match cs with
  | '0' :: rest => if rest.head?.any Char.isDigit then none else some (⟨0, 0⟩, false, rest)
  | c :: _ => if c.isDigit then some (integerDigits ⟨0, 0⟩ cs) else none
  | [] => none

/-- A double from a number's digits and optional exponent part, with its
sign; `none` when it overflows.  An exponent too large to hold gives zero, or
overflows when the significand is not zero and the exponent is positive. -/
def scaled (negative : Bool) (d : Digits) (cs : List Char) : Option (Binary64 × List Char) :=
  let signedExponent (positive : Bool) (body : List Char) : Option (Binary64 × List Char) :=
    if body.head?.any Char.isDigit then
      match exponentDigits (some 0) body with
      | (some e, rest) =>
        let final := if positive then saturatingAdd d.exponent e else saturatingAdd d.exponent (-(e : Int))
        (Binary64.scaleTen negative d.significand final).map fun x => (x, rest)
      | (none, rest) =>
        if d.significand != 0 && positive then none
        else some (Binary64.ofFields negative 0 0, rest)
    else none
  match cs with
  | 'e' :: '+' :: body | 'E' :: '+' :: body => signedExponent true body
  | 'e' :: '-' :: body | 'E' :: '-' :: body => signedExponent false body
  | 'e' :: body | 'E' :: body => signedExponent true body
  | _ => (Binary64.scaleTen negative d.significand d.exponent).map fun x => (x, cs)

/-- A number starting at its sign or first digit.  Digits are read into a
significand below `2 ^ 64`: integer digits past that raise the exponent and
fraction digits past it are dropped.  A number without point or exponent whose
significand did not fill up is an integer (`-0` is the double negative zero,
and a negative number below `-2 ^ 63` a double); any other number is
`significand * 10 ^ exponent` by the quick method of `Binary64.scaleTen`. -/
def number? (cs : List Char) : Option (Number × List Char) := do
  let (negative, body) := match cs with
    | '-' :: rest => (true, rest)
    | _ => (false, cs)
  let (whole, filled, afterInt) ← integerPart? body
  match afterInt with
  | '.' :: more =>
    if more.head?.any Char.isDigit then
      let (d, rest) := fractionDigits whole more
      let (x, after) ← scaled negative d rest
      pure (.float x, after)
    else none
  | 'e' :: _ | 'E' :: _ =>
    let (x, after) ← scaled negative whole afterInt
    pure (.float x, after)
  | _ =>
    if filled then
      let (x, after) ← scaled negative whole afterInt
      pure (.float x, after)
    else if negative then
      if whole.significand = 0 then pure (.float (Binary64.ofFields true 0 0), afterInt)
      else if whole.significand ≤ Nat.pow 2 63 then pure (.int (-(whole.significand : Int)), afterInt)
      else pure (.float (Binary64.ofInt whole.significand).neg, afterInt)
    else pure (.int whole.significand, afterInt)

mutual

/-- A value after optional blanks.  `depth` is how many more arrays or
objects may open; `fuel` bounds the number of steps. -/
def value? : Nat → Nat → List Char → Option (Json × List Char)
  | 0, _, _ => none
  | fuel + 1, depth, cs =>
    match skipSpace cs with
    | 'n' :: 'u' :: 'l' :: 'l' :: rest => some (.null, rest)
    | 't' :: 'r' :: 'u' :: 'e' :: rest => some (.bool true, rest)
    | 'f' :: 'a' :: 'l' :: 's' :: 'e' :: rest => some (.bool false, rest)
    | '[' :: rest =>
      if depth ≤ 1 then none
      else
        match skipSpace rest with
        | ']' :: after => some (.arr [], after)
        | _ => items? fuel (depth - 1) rest []
    | '\x7b' :: rest =>
      if depth ≤ 1 then none
      else
        match skipSpace rest with
        | '\x7d' :: after => some (.obj [], after)
        | _ => entries? fuel (depth - 1) rest []
    | cs@('"' :: _) => (string? cs).map fun (s, rest) => (.str s, rest)
    | cs@('-' :: _) => (number? cs).map fun (n, rest) => (.num n, rest)
    | cs@(c :: _) => if c.isDigit then (number? cs).map fun (n, rest) => (.num n, rest) else none
    | [] => none

/-- Array items after `[` or a comma; `acc` holds the items so far, last
first. -/
def items? : Nat → Nat → List Char → List Json → Option (Json × List Char)
  | 0, _, _, _ => none
  | fuel + 1, depth, cs, acc =>
    match value? fuel depth cs with
    | none => none
    | some (v, rest) =>
      match skipSpace rest with
      | ',' :: more => items? fuel depth more (v :: acc)
      | ']' :: more => some (.arr (v :: acc).reverse, more)
      | _ => none

/-- Object entries after `{` or a comma; `acc` holds the entries so far, in
order, repeated keys merged. -/
def entries? : Nat → Nat → List Char → List (String × Json) → Option (Json × List Char)
  | 0, _, _, _ => none
  | fuel + 1, depth, cs, acc =>
    match string? (skipSpace cs) with
    | none => none
    | some (key, rest) =>
      match skipSpace rest with
      | ':' :: afterColon =>
        match value? fuel depth afterColon with
        | none => none
        | some (v, after) =>
          let acc := insertEntry key v acc
          match skipSpace after with
          | ',' :: more => entries? fuel depth more acc
          | '\x7d' :: more => some (.obj acc, more)
          | _ => none
      | _ => none

end

/-- The one JSON value of a text, with nothing but blanks around it. -/
def parse? (text : String) : Option Json :=
  let cs := text.toList
  match value? (2 * cs.length + 2) 128 cs with
  | some (v, rest) => if (skipSpace rest).isEmpty then some v else none
  | none => none

end Json

end DftTaxonomy
