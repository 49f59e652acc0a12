import DftTaxonomy.Binary64.Round

/-!
# Reading a double from plain decimal text

`Binary64.ofString?` reads the decimal notation of a number, correctly
rounded: an optional sign, then `inf`, `infinity` or `nan` in any case, or
digits with at most one point and at least one digit, then an optional
exponent `e` or `E` with an optional sign and at least one digit.  Nothing
else is allowed: no blanks, no digit separators, no hexadecimal.
-/

namespace DftTaxonomy

namespace Binary64

/-- The leading run of decimal digits and the rest. -/
def digitRun (cs : List Char) : List Char × List Char :=
  (cs.takeWhile Char.isDigit, cs.dropWhile Char.isDigit)

/-- The value of a run of decimal digits. -/
def runValue (ds : List Char) : Nat :=
  ds.foldl (fun n d => n * 10 + (d.toNat - '0'.toNat)) 0

/-- An exponent part after its mark: an optional sign and digits, nothing
after them. -/
def exponentValue? (cs : List Char) : Option Int :=
  let (negative, rest) := match cs with
    | '-' :: rest => (true, rest)
    | '+' :: rest => (false, rest)
    | rest => (false, rest)
  let (ds, after) := digitRun rest
  if ds.isEmpty || !after.isEmpty then none
  else some (if negative then -(runValue ds : Int) else runValue ds)

/-- Digits with an optional point and an optional exponent, as the digits of
the significand and the power of ten they are scaled by. -/
def decimalBody? (cs : List Char) : Option (Nat × Int) := do
  let (whole, rest) := digitRun cs
  let (fraction, rest) := match rest with
    | '.' :: more => digitRun more
    | _ => ([], rest)
  if whole.isEmpty && fraction.isEmpty then none
  else
    let exponent ← match rest with
      | [] => some 0
      | c :: more => if c == 'e' || c == 'E' then exponentValue? more else none
    pure (runValue (whole ++ fraction), exponent - fraction.length)

/-- The double written by `text` in plain decimal notation, correctly rounded;
`none` when the text is not such a number. -/
def ofString? (text : String) : Option Binary64 :=
  let (negative, body) := match text.toList with
    | '-' :: rest => (true, rest)
    | '+' :: rest => (false, rest)
    | rest => (false, rest)
  let word := String.ofList (body.map Char.toLower)
  if word == "inf" || word == "infinity" then
    some (if negative then infinity.neg else infinity)
  else if word == "nan" then some (if negative then nan.neg else nan)
  else (decimalBody? body).map fun (digits, exp10) => ofDecimal negative digits exp10

end Binary64

end DftTaxonomy
