import DftTaxonomy.Binary64.Round

/-!
# Products and quotients of doubles

`Binary64.mul` and `Binary64.div` are the IEEE operations on finite doubles:
the exact product or quotient, rounded once to nearest with ties to even.

`Binary64.scaleTen` is the quick way of turning `significand * 10 ^ exponent`
into a double that fast decimal readers use: the significand is rounded to a
double, then multiplied by the double nearest to `10 ^ exponent`, or divided by
it for a negative exponent, in steps of `10 ^ 308` while the power is out of
range.  Each step rounds, so the result can be one unit off the nearest double;
it is `none` when a multiplication overflows.
-/

namespace DftTaxonomy

namespace Binary64

/-- The exact value of a finite double's magnitude as a ratio of naturals. -/
def magnitudeRatio (x : Binary64) : Nat × Nat :=
  scaledRatio x.significand 1 (-x.exponent)

/-- The product of two finite doubles, rounded to nearest, ties to even. -/
def mul (a b : Binary64) : Binary64 :=
  let (an, ad) := a.magnitudeRatio
  let (bn, bd) := b.magnitudeRatio
  ofRatio (a.negative != b.negative) (an * bn) (ad * bd)

/-- The quotient of two finite doubles, the divisor non-zero, rounded to
nearest, ties to even. -/
def div (a b : Binary64) : Binary64 :=
  let (an, ad) := a.magnitudeRatio
  let (bn, bd) := b.magnitudeRatio
  ofRatio (a.negative != b.negative) (an * bd) (ad * bn)

/-- The double nearest to `10 ^ k`. -/
def powerOfTen (k : Nat) : Binary64 := ofDecimal false 1 k

/-- The largest power of ten with a double of its own. -/
def largestPowerOfTen : Nat := 308

/-- Divide `x` by `10 ^ k`, first by `10 ^ 308` while `k` is larger than that
and `x` is not zero; `steps` bounds the number of such divisions. -/
def divideByTen (x : Binary64) : Nat → Nat → Binary64
  | 0, _ => x
  | steps + 1, k =>
    if k ≤ largestPowerOfTen then div x (powerOfTen k)
    else if x.isZero then x
    else divideByTen (div x (powerOfTen largestPowerOfTen)) steps (k - largestPowerOfTen)

/-- `significand * 10 ^ exponent` by the quick method, with the given sign;
`none` when the result overflows. -/
def scaleTen (negative : Bool) (significand : Nat) (exponent : Int) : Option Binary64 :=
  let x := ofInt significand
  let result :=
    if 0 ≤ exponent then
      if exponent.toNat ≤ largestPowerOfTen then
        let y := mul x (powerOfTen exponent.toNat)
        if y.isInfinite then none else some y
      else if x.isZero then some x
      else none
    else
      let k := (-exponent).toNat
      some (divideByTen x (k / largestPowerOfTen + 1) k)
  result.map fun y => if negative then y.neg else y

end Binary64

end DftTaxonomy
