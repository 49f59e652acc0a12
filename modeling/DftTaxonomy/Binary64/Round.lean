import DftTaxonomy.Binary64.Basic

/-!
# Rounding exact numbers to doubles

`Binary64.ofRatio` gives the double nearest to a non-negative ratio of natural
numbers, with its sign attached; a ratio exactly between two doubles goes to
the one with an even significand, and a ratio at or beyond the overflow
threshold becomes an infinity.  Integers (`ofInt`) and decimals (`ofDecimal`)
are rounded through it, so each conversion of the library rounds once.
-/

namespace DftTaxonomy

namespace Binary64

/-- The nearest natural number to `a / b` (for `b > 0`), a tie going to the
even one. -/
def divNearestEven (a b : Nat) : Nat :=
  let q := a / b
  let r := a % b
  if 2 * r < b then q
  else if b < 2 * r then q + 1
  else if q % 2 = 0 then q else q + 1

/-- The numerator and denominator of `num / den * 2 ^ (-shift)`. -/
def scaledRatio (num den : Nat) (shift : Int) : Nat × Nat :=
  if shift ≤ 0 then (num * Nat.pow 2 (-shift).toNat, den) else (num, den * Nat.pow 2 shift.toNat)

/-- The double with the given sign nearest to `num / den`; `den = 0` reads as
an infinity, or as NaN when `num` is zero too.

The binary exponent `q` is chosen so that `num / den / 2 ^ q` lies in
`[2 ^ 52, 2 ^ 53)`, then raised to the subnormal floor `-1074`; the significand
is that quotient rounded to nearest, ties to even. -/
def ofRatio (negative : Bool) (num den : Nat) : Binary64 :=
  if den = 0 then
    (if num = 0 then nan else ofFields negative topExponent 0)
  else if num = 0 then ofFields negative 0 0
  else
    let start : Int := (Nat.log2 num : Int) - (Nat.log2 den : Int) - 53
    let first := scaledRatio num den start
    let q₁ := if Nat.pow 2 53 ≤ first.1 / first.2 then start + 1 else start
    let q₂ := max q₁ (-1074)
    let exact := scaledRatio num den q₂
    let m₁ := divNearestEven exact.1 exact.2
    let m := if m₁ = Nat.pow 2 53 then Nat.pow 2 52 else m₁
    let q := if m₁ = Nat.pow 2 53 then q₂ + 1 else q₂
    if 971 < q then ofFields negative topExponent 0
    else if m < Nat.pow 2 52 then ofFields negative 0 m
    else ofFields negative (q + 1075).toNat (m - Nat.pow 2 52)

/-- The double nearest to an integer. -/
def ofInt (i : Int) : Binary64 := ofRatio (decide (i < 0)) i.natAbs 1

/-- The number of decimal digits of `n` (one for zero). -/
def decimalLength (n : Nat) : Nat := (Nat.repr n).length

/-- The double nearest to `digits * 10 ^ exp10`, with the given sign.

Exponents far outside the double range are settled before any power of ten is
formed: a non-zero decimal above `10 ^ 400` overflows, one below `10 ^ -330`
rounds to zero, so the exact arithmetic stays small. -/
def ofDecimal (negative : Bool) (digits : Nat) (exp10 : Int) : Binary64 :=
  if digits = 0 then ofFields negative 0 0
  else if 400 < exp10 then ofFields negative topExponent 0
  else if exp10 + (decimalLength digits : Int) < -330 then ofFields negative 0 0
  else if 0 ≤ exp10 then ofRatio negative (digits * Nat.pow 10 exp10.toNat) 1
  else ofRatio negative digits (Nat.pow 10 (-exp10).toNat)

end Binary64

end DftTaxonomy
