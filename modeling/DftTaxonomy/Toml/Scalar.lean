import DftTaxonomy.Toml.Document
import DftTaxonomy.Binary64.Round

/-!
# TOML scalars

Readers for the pieces of a TOML line that hold no structure: blanks and
comments, keys, strings, numbers, booleans and date-times.  Each reader takes
the text at the piece's first character and gives the piece with the text
after it, or `none` when the text does not follow the TOML 1.0 grammar.

* Strings: basic strings with the escapes `\b \t \n \f \r \" \\ \uXXXX
  \UXXXXXXXX`, literal strings, and the multi-line forms of both, where a line
  break right after the opening delimiter is dropped, `\` at a line's end
  joins lines, and up to two quotes may stand before the closing delimiter.
* Integers: decimal with an optional sign, or `0x`, `0o`, `0b` digits; an
  underscore only between two digits; no leading zero; the value must fit in
  64 signed bits.
* Floats: a decimal integer part, then a fraction, an exponent or both, or
  `inf` and `nan` with an optional sign; a value too large for a double is
  refused when positive and becomes negative infinity when negative.
* Date-times: offset date-times, local date-times, local dates and local
  times, with real months, days of those months, hours, minutes and seconds
  up to 60.
* Keys: bare or quoted parts joined by dots, fewer than `nestingLimit` of them.
-/

namespace DftTaxonomy

namespace Toml

/-- A blank inside a line: space or tab. -/
def isBlank (c : Char) : Bool := c == ' ' || c == '\t'

/-- Text after its leading blanks. -/
def skipBlanks (cs : List Char) : List Char := cs.dropWhile isBlank

/-- A character allowed in a comment: tab, printable ASCII, any non-ASCII. -/
def isCommentChar (c : Char) : Bool :=
  c == '\t' || (0x20 ≤ c.toNat && c.toNat ≤ 0x7E) || 0x80 ≤ c.toNat

/-- A line break: line feed, or carriage return and line feed. -/
def lineBreak? : List Char → Option (List Char)
  | '\n' :: rest => some rest
  | '\r' :: '\n' :: rest => some rest
  | _ => none

/-- A comment from its `#` up to, not including, the line break. -/
def comment? : List Char → Option (List Char)
  | '#' :: rest =>
    let after := rest.dropWhile isCommentChar
    match after with
    | [] => some []
    | c :: _ => if c == '\n' || c == '\r' then some after else none
  | _ => none

/-- The end of a line after a value or header: blanks, an optional comment,
then a line break or the end of the text. -/
def lineEnd? (cs : List Char) : Option (List Char) :=
  let cs := skipBlanks cs
  let afterComment := match cs with
    | '#' :: _ => comment? cs
    | _ => some cs
  match afterComment with
  | none => none
  | some [] => some []
  | some rest => lineBreak? rest

/-- A character of a bare key: ASCII letter, digit, `-` or `_`. -/
def isBareKeyChar (c : Char) : Bool :=
  (c.toNat < 128 && c.isAlphanum) || c == '-' || c == '_'

/-- A character written as itself in a basic string. -/
def isBasicChar (c : Char) : Bool :=
  let n := c.toNat
  c == ' ' || c == '\t' || n == 0x21 || (0x23 ≤ n && n ≤ 0x5B) || (0x5D ≤ n && n ≤ 0x7E) ||
    0x80 ≤ n

/-- A character of a literal string. -/
def isLiteralChar (c : Char) : Bool :=
  let n := c.toNat
  c == '\t' || (0x20 ≤ n && n ≤ 0x26) || (0x28 ≤ n && n ≤ 0x7E) || 0x80 ≤ n

/-- The value of a hexadecimal digit. -/
def hexValue? (c : Char) : Option Nat :=
  if '0' ≤ c ∧ c ≤ '9' then some (c.toNat - '0'.toNat)
  else if 'a' ≤ c ∧ c ≤ 'f' then some (c.toNat - 'a'.toNat + 10)
  else if 'A' ≤ c ∧ c ≤ 'F' then some (c.toNat - 'A'.toNat + 10)
  else none

/-- `n` hexadecimal digits as a Unicode scalar value. -/
def scalarEscape? (n : Nat) (cs : List Char) : Option (Char × List Char) :=
  let ds := cs.take n
  if ds.length != n then none
  else
    match ds.mapM hexValue? with
    | none => none
    | some vs =>
      let v := vs.foldl (fun a d => a * 16 + d) 0
      if v ≤ 0x10FFFF ∧ ¬(0xD800 ≤ v ∧ v ≤ 0xDFFF) then some (Char.ofNat v, cs.drop n) else none

/-- An escape after its backslash. -/
def escape? : List Char → Option (Char × List Char)
  | '"' :: rest => some ('"', rest)
  | '\\' :: rest => some ('\\', rest)
  | 'b' :: rest => some ('\x08', rest)
  | 'f' :: rest => some ('\x0c', rest)
  | 'n' :: rest => some ('\n', rest)
  | 'r' :: rest => some ('\r', rest)
  | 't' :: rest => some ('\t', rest)
  | 'u' :: rest => scalarEscape? 4 rest
  | 'U' :: rest => scalarEscape? 8 rest
  | _ => none

/-- A one-line basic string's body after its opening quote; `acc` holds the
characters so far, last first. -/
def basicBody : Nat → List Char → List Char → Option (String × List Char)
  | 0, _, _ => none
  | _ + 1, [], _ => none
  | fuel + 1, c :: rest, acc =>
    if c == '"' then some (String.ofList acc.reverse, rest)
    else if c == '\\' then
      match escape? rest with
      | some (e, after) => basicBody fuel after (e :: acc)
      | none => none
    else if isBasicChar c then basicBody fuel rest (c :: acc)
    else none

/-- A one-line literal string's body after its opening apostrophe. -/
def literalBody (cs : List Char) : Option (String × List Char) :=
  let body := cs.takeWhile isLiteralChar
  match cs.drop body.length with
  | '\'' :: rest => some (String.ofList body, rest)
  | _ => none

/-- The closing run of a multi-line string: at `q q q`, the run of `q`s; a
run of three to five closes the string, the extra ones being content. -/
def closingRun (q : Char) (cs : List Char) : Nat := (cs.takeWhile (· == q)).length

/-- Skip blanks and line breaks after a line-ending backslash. -/
def skipBlankLines : Nat → List Char → List Char
  | 0, cs => cs
  | fuel + 1, cs =>
    match cs with
    | ' ' :: rest => skipBlankLines fuel rest
    | '\t' :: rest => skipBlankLines fuel rest
    | '\n' :: rest => skipBlankLines fuel rest
    | '\r' :: '\n' :: rest => skipBlankLines fuel rest
    | _ => cs

/-- A multi-line basic string's body after its opening delimiter. -/
def multiBasicBody : Nat → List Char → List Char → Option (String × List Char)
  | 0, _, _ => none
  | _ + 1, [], _ => none
  | fuel + 1, c :: rest, acc =>
    if c == '"' then
      let run := closingRun '"' (c :: rest)
      if run < 3 then multiBasicBody fuel rest ('"' :: acc)
      else if run ≤ 5 then
        some (String.ofList ((List.replicate (run - 3) '"').reverse ++ acc).reverse, (c :: rest).drop run)
      else none
    else if c == '\\' then
      let afterBlanks := skipBlanks rest
      match lineBreak? afterBlanks with
      | some afterBreak => multiBasicBody fuel (skipBlankLines afterBreak.length afterBreak) acc
      | none =>
        match escape? rest with
        | some (e, after) => multiBasicBody fuel after (e :: acc)
        | none => none
    else
      match lineBreak? (c :: rest) with
      | some after => multiBasicBody fuel after ('\n' :: acc)
      | none => if isBasicChar c then multiBasicBody fuel rest (c :: acc) else none

/-- A multi-line literal string's body after its opening delimiter. -/
def multiLiteralBody : Nat → List Char → List Char → Option (String × List Char)
  | 0, _, _ => none
  | _ + 1, [], _ => none
  | fuel + 1, c :: rest, acc =>
    if c == '\'' then
      let run := closingRun '\'' (c :: rest)
      if run < 3 then multiLiteralBody fuel rest ('\'' :: acc)
      else if run ≤ 5 then
        some (String.ofList ((List.replicate (run - 3) '\'').reverse ++ acc).reverse, (c :: rest).drop run)
      else none
    else
      match lineBreak? (c :: rest) with
      | some after => multiLiteralBody fuel after ('\n' :: acc)
      | none => if isLiteralChar c then multiLiteralBody fuel rest (c :: acc) else none

/-- Drop one line break right after a multi-line string's opening delimiter. -/
def dropFirstBreak (cs : List Char) : List Char := (lineBreak? cs).getD cs

/-- A string in any of the four forms, at its opening quote. -/
def string? (cs : List Char) : Option (String × List Char) :=
  match cs with
  | '"' :: '"' :: '"' :: rest =>
    let body := dropFirstBreak rest
    multiBasicBody (body.length + 1) body []
  | '"' :: rest => basicBody (rest.length + 1) rest []
  | '\'' :: '\'' :: '\'' :: rest =>
    let body := dropFirstBreak rest
    multiLiteralBody (body.length + 1) body []
  | '\'' :: rest => literalBody rest
  | _ => none

/-- A key's part: a bare key, or a one-line basic or literal string. -/
def simpleKey? (cs : List Char) : Option (String × List Char) :=
  match cs with
  | '"' :: rest => basicBody (rest.length + 1) rest []
  | '\'' :: rest => literalBody rest
  | _ =>
    let bare := cs.takeWhile isBareKeyChar
    if bare.isEmpty then none else some (String.ofList bare, cs.drop bare.length)

/-- The parts of a dotted key after its first, each after blanks, a dot and
blanks. -/
def keyRest : Nat → List Char → List String → Option (List String × List Char)
  | 0, _, _ => none
  | fuel + 1, cs, acc =>
    match skipBlanks cs with
    | '.' :: rest =>
      match simpleKey? (skipBlanks rest) with
      | some (k, after) => keyRest fuel after (k :: acc)
      | none => none
    | _ => some (acc.reverse, skipBlanks cs)

/-- How deep a document may nest: a key has fewer parts than this, and a
value lies inside fewer arrays and inline tables than this. -/
def nestingLimit : Nat := 80

/-- A key, simple or dotted, with blanks around its parts; the text after it
starts after the blanks that follow the key.  A key of `nestingLimit` parts
or more is refused. -/
def key? (cs : List Char) : Option (List String × List Char) :=
  match simpleKey? (skipBlanks cs) with
  | some (k, after) =>
    match keyRest (after.length + 1) after [k] with
    | some (path, rest) => if path.length < nestingLimit then some (path, rest) else none
    | none => none
  | none => none

/-- Digits with single underscores between them, as the digits alone. -/
def underscored (isDigit : Char → Bool) (cs : List Char) : Option (List Char) :=
  let pieces := cs.splitOn '_'
  if pieces.all (fun p => !p.isEmpty && p.all isDigit) then some (cs.filter (· != '_')) else none

/-- The value of digits in a base. -/
def digitsIn (base : Nat) (ds : List Char) : Nat :=
  ds.foldl (fun n d => n * base + ((hexValue? d).getD 0)) 0

/-- Whether a character is an octal digit. -/
def isOctal (c : Char) : Bool := '0' ≤ c && c ≤ '7'

/-- Whether a character is a binary digit. -/
def isBinary (c : Char) : Bool := c == '0' || c == '1'

/-- Whether a character is a hexadecimal digit. -/
def isHex (c : Char) : Bool := (hexValue? c).isSome

/-- The sign of a number and the text after it. -/
def splitSign : List Char → Bool × Bool × List Char
  | '-' :: rest => (true, true, rest)
  | '+' :: rest => (false, true, rest)
  | cs => (false, false, cs)

/-- The digits of an unsigned decimal integer: `0`, or digits not starting
with `0`. -/
def decimalDigits? (cs : List Char) : Option (List Char) :=
  match cs with
  | ['0'] => some ['0']
  | '0' :: _ => none
  | _ => underscored Char.isDigit cs

/-- The largest value of a 64-bit signed integer, plus one. -/
def int64Bound : Nat := Nat.pow 2 63

/-- An integer token: prefixed digits, or a signed decimal, in range. -/
def integer? (tok : List Char) : Option Int :=
  let prefixed (isDigit : Char → Bool) (base : Nat) (rest : List Char) : Option Int :=
    match underscored isDigit rest with
    | some ds => let v := digitsIn base ds; if v < int64Bound then some v else none
    | none => none
  match tok with
  | '0' :: 'x' :: rest => prefixed isHex 16 rest
  | '0' :: 'o' :: rest => prefixed isOctal 8 rest
  | '0' :: 'b' :: rest => prefixed isBinary 2 rest
  | _ =>
    let (negative, _, body) := splitSign tok
    match decimalDigits? body with
    | some ds =>
      let v := digitsIn 10 ds
      if negative then (if v ≤ int64Bound then some (-(v : Int)) else none)
      else if v < int64Bound then some v else none
    | none => none

/-- A float token: `inf` or `nan` with an optional sign, or a decimal integer
part followed by a fraction, an exponent, or both. -/
def float? (tok : List Char) : Option Binary64 :=
  let (negative, _, body) := splitSign tok
  match body with
  | ['i', 'n', 'f'] => some (if negative then Binary64.infinity.neg else Binary64.infinity)
  | ['n', 'a', 'n'] => some (if negative then Binary64.nan.neg else Binary64.nan)
  | _ =>
    let intPart := body.takeWhile (fun c => c != '.' && c != 'e' && c != 'E')
    let afterInt := body.drop intPart.length
    let (fracPart, afterFrac) := match afterInt with
      | '.' :: rest =>
        let f := rest.takeWhile (fun c => c != 'e' && c != 'E')
        (some f, rest.drop f.length)
      | _ => (none, afterInt)
    let expPart := match afterFrac with
      | 'e' :: rest => some rest
      | 'E' :: rest => some rest
      | _ => none
    let restOk := afterFrac.isEmpty || expPart.isSome
    if !restOk || (fracPart.isNone && expPart.isNone) then none
    else do
      let intDigits ← decimalDigits? intPart
      let fracDigits ← match fracPart with
        | some f => underscored Char.isDigit f
        | none => some []
      let exp10 ← match expPart with
        | some e =>
          let (eneg, _, edigits) := splitSign e
          match underscored Char.isDigit edigits with
          | some ds => let v : Int := digitsIn 10 ds; some (if eneg then -v else v)
          | none => none
        | none => some 0
      let x := Binary64.ofDecimal negative (digitsIn 10 (intDigits ++ fracDigits))
        (exp10 - fracDigits.length)
      if x.isInfinite && !x.negative then none else some x

/-- Whether `cs` is exactly `n` decimal digits. -/
def isDigits (n : Nat) (cs : List Char) : Bool := cs.length == n && cs.all Char.isDigit

/-- Whether a year has a 29th of February. -/
def isLeapYear (y : Nat) : Bool := y % 4 == 0 && (y % 100 != 0 || y % 400 == 0)

/-- The number of days of a month. -/
def monthDays (y m : Nat) : Nat :=
  if m == 2 then (if isLeapYear y then 29 else 28)
  else if m == 4 || m == 6 || m == 9 || m == 11 then 30 else 31

/-- A full date `YYYY-MM-DD` with a real month and day. -/
def isFullDate (cs : List Char) : Bool :=
  match cs with
  | [y1, y2, y3, y4, '-', m1, m2, '-', d1, d2] =>
    isDigits 4 [y1, y2, y3, y4] && isDigits 2 [m1, m2] && isDigits 2 [d1, d2] &&
      let y := digitsIn 10 [y1, y2, y3, y4]
      let m := digitsIn 10 [m1, m2]
      let d := digitsIn 10 [d1, d2]
      1 ≤ m && m ≤ 12 && 1 ≤ d && d ≤ monthDays y m
  | _ => false

/-- A partial time `HH:MM:SS` with an optional fraction of a second. -/
def isPartialTime (cs : List Char) : Bool :=
  match cs with
  | h1 :: h2 :: ':' :: m1 :: m2 :: ':' :: s1 :: s2 :: rest =>
    isDigits 2 [h1, h2] && isDigits 2 [m1, m2] && isDigits 2 [s1, s2] &&
      digitsIn 10 [h1, h2] ≤ 23 && digitsIn 10 [m1, m2] ≤ 59 && digitsIn 10 [s1, s2] ≤ 60 &&
      match rest with
      | [] => true
      | '.' :: frac => !frac.isEmpty && frac.all Char.isDigit
      | _ => false
  | _ => false

/-- A time offset: `Z`, `z`, or a sign with `HH:MM`. -/
def isOffset (cs : List Char) : Bool :=
  match cs with
  | ['Z'] => true
  | ['z'] => true
  | [s, h1, h2, ':', m1, m2] =>
    (s == '+' || s == '-') && isDigits 2 [h1, h2] && isDigits 2 [m1, m2] &&
      digitsIn 10 [h1, h2] ≤ 23 && digitsIn 10 [m1, m2] ≤ 59
  | _ => false

/-- A time with an optional offset after it. -/
def isTimeWithOffset (cs : List Char) : Bool :=
  let timeLen := 8 + (if (cs.drop 8).head? == some '.' then
    1 + ((cs.drop 9).takeWhile Char.isDigit).length else 0)
  isPartialTime (cs.take timeLen) && (timeLen == cs.length || isOffset (cs.drop timeLen))

/-- A character that can continue a number or date-time token. -/
def isTokenChar (c : Char) : Bool :=
  (c.toNat < 128 && c.isAlphanum) || c == '_' || c == '+' || c == '-' || c == '.' || c == ':'

/-- A date-time, a float or an integer, at its first character. -/
def numeric? (cs : List Char) : Option (TomlValue × List Char) :=
  let tok := cs.takeWhile isTokenChar
  let rest := cs.drop tok.length
  if isFullDate (tok.take 10) then
    match tok.drop 10 with
    | [] =>
      match rest with
      | ' ' :: d :: _ =>
        if d.isDigit then
          let timeTok := (rest.drop 1).takeWhile isTokenChar
          if isTimeWithOffset timeTok then
            some (.datetime (String.ofList (tok ++ ' ' :: timeTok)), (rest.drop 1).drop timeTok.length)
          else none
        else some (.datetime (String.ofList tok), rest)
      | _ => some (.datetime (String.ofList tok), rest)
    | sep :: time =>
      if (sep == 'T' || sep == 't') && isTimeWithOffset time then
        some (.datetime (String.ofList tok), rest)
      else none
  else if isPartialTime tok then some (.datetime (String.ofList tok), rest)
  else
    match float? tok with
    | some x => some (.float x, rest)
    | none => (integer? tok).map fun i => (.integer i, rest)

end Toml

end DftTaxonomy
