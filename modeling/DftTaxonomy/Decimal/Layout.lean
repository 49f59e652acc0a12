import DftTaxonomy.Decimal.Shortest

/-!
# Laying out shortest decimals as text

A `Decimal.Layout` records the decisions a text format makes about a double's
shortest digits: which decimal exponents are written positionally, whether an
integral value keeps a `.0`, how an exponent is marked, and which of two
shortest decimals equally near the double is written.  `Layout.render`
writes a finite double under a layout; NaN and the infinities have no digits
and are left to each format.
-/

namespace DftTaxonomy

namespace Decimal

/-- The decisions of one text format about shortest digits.  Exponents are
those of the leading digit (`1.5e3` has exponent `3`). -/
structure Layout where
  /-- Exponents below this are written in exponent form; `none`: never. -/
  exponentBelow : Option Int
  /-- Exponents from this on are written in exponent form; `none`: never. -/
  exponentFrom : Option Int
  /-- Integral values with an exponent below this get `.0` when written
  positionally; `none`: never. -/
  pointBelow : Option Int
  /-- A non-negative exponent is written with `+`. -/
  plusSign : Bool
  /-- Which of two shortest decimals equally near the double is written. -/
  tie : Tie

/-- `n` zeros. -/
def zeros (n : Nat) : String := String.ofList (List.replicate n '0')

/-- The digits of `digits * 10 ^ k` positionally, where `e` is the exponent of
the leading digit; `point` adds `.0` to an integral value. -/
def positional (ds : List Char) (e : Int) (point : Bool) : String :=
  let n := ds.length
  if e < 0 then "0." ++ zeros ((-e).toNat - 1) ++ String.ofList ds
  else if n ≤ e.toNat + 1 then
    String.ofList ds ++ zeros (e.toNat + 1 - n) ++ (if point then ".0" else "")
  else
    String.ofList (ds.take (e.toNat + 1)) ++ "." ++ String.ofList (ds.drop (e.toNat + 1))

/-- The digits in exponent form: one digit, the rest after a point, then the
exponent. -/
def scientific (ds : List Char) (e : Int) (plusSign : Bool) : String :=
  let mantissa := match ds with
    | [] => "0"
    | [d] => String.singleton d
    | d :: rest => String.singleton d ++ "." ++ String.ofList rest
  let sign := if e < 0 then "-" else if plusSign then "+" else ""
  mantissa ++ "e" ++ sign ++ Nat.repr e.natAbs

/-- Whether `e` falls where a layout asks for exponent form. -/
def Layout.exponentForm (layout : Layout) (e : Int) : Bool :=
  (match layout.exponentBelow with
    | some b => decide (e < b)
    | none => false) ||
  (match layout.exponentFrom with
    | some t => decide (t ≤ e)
    | none => false)

/-- Whether an integral value with exponent `e` keeps a `.0`. -/
def Layout.point (layout : Layout) (e : Int) : Bool :=
  match layout.pointBelow with
  | some b => decide (e < b)
  | none => false

/-- A finite double written under `layout`; `none` for NaN and infinities.
Zero has the single digit `0` and exponent `0`; the sign is written for every
negative value, negative zero included. -/
def Layout.render (layout : Layout) (x : Binary64) : Option String :=
  if !x.isFinite then none
  else
    let (digits, k) := shortest layout.tie x
    let ds := (Nat.repr digits).toList
    let e := k + (ds.length : Int) - 1
    let body :=
      if layout.exponentForm e then scientific ds e layout.plusSign
      else positional ds e (layout.point e)
    some ((if x.negative then "-" else "") ++ body)

end Decimal

end DftTaxonomy
