/-!
# Doubles as words

A binary64 double is its 64-bit word.  The sign, the biased exponent and the
fraction are read off the word by division and remainder on `Nat`; every
operation of the library on doubles is exact arithmetic on those fields, so no
answer depends on a floating-point unit.

* `Binary64.key` places a non-NaN double on the integer line so that the
  integer order is the IEEE order; both zeros get the key `0`.
* `Binary64.eq` and `Binary64.lt` are IEEE equality and order: a NaN is
  neither equal to nor below anything.
-/

namespace DftTaxonomy

/-- An IEEE 754 binary64 value, held as its word. -/
structure Binary64 where
  word : UInt64
  deriving DecidableEq, Inhabited

namespace Binary64

/-- Width of the fraction field: `2 ^ 52`. -/
def fractionSpan : Nat := Nat.pow 2 52

/-- Width of the biased exponent field: `2 ^ 11`. -/
def exponentSpan : Nat := Nat.pow 2 11

/-- The sign bit's weight in the word. -/
def signWeight : Nat := Nat.pow 2 63

/-- The biased exponent shared by infinities and NaNs. -/
def topExponent : Nat := 2047

/-- Whether the sign bit is set. -/
def negative (x : Binary64) : Bool := decide (signWeight ≤ x.word.toNat)

/-- The biased exponent field. -/
def biased (x : Binary64) : Nat := x.word.toNat / fractionSpan % exponentSpan

/-- The fraction field. -/
def fraction (x : Binary64) : Nat := x.word.toNat % fractionSpan

/-- The word with the given sign, biased exponent and fraction. -/
def ofFields (negative : Bool) (biased fraction : Nat) : Binary64 :=
  ⟨UInt64.ofNat ((if negative then signWeight else 0) + biased * fractionSpan + fraction)⟩

/-- Not a number: the top exponent with a non-zero fraction. -/
def isNaN (x : Binary64) : Bool := x.biased == topExponent && x.fraction != 0

/-- An infinity of either sign. -/
def isInfinite (x : Binary64) : Bool := x.biased == topExponent && x.fraction == 0

/-- Neither infinite nor NaN. -/
def isFinite (x : Binary64) : Bool := x.biased != topExponent

/-- Either zero. -/
def isZero (x : Binary64) : Bool := x.biased == 0 && x.fraction == 0

/-- The integer significand of a finite double: its magnitude is
`significand * 2 ^ exponent`. -/
def significand (x : Binary64) : Nat :=
  if x.biased = 0 then x.fraction else x.fraction + fractionSpan

/-- The binary exponent of a finite double's integer significand. -/
def exponent (x : Binary64) : Int :=
  if x.biased = 0 then -1074 else (x.biased : Int) - 1075

/-- The word without its sign bit; it grows with the magnitude. -/
def magnitude (x : Binary64) : Nat := x.word.toNat % signWeight

/-- The place of a non-NaN double on the integer line: magnitudes order the
non-negative doubles, and a negative double sits at minus its magnitude. -/
def key (x : Binary64) : Int :=
  if x.negative then -(x.magnitude : Int) else x.magnitude

/-- IEEE equality: the zeros are equal, a NaN equals nothing. -/
def eq (x y : Binary64) : Bool := !x.isNaN && !y.isNaN && x.key == y.key

/-- IEEE order: a NaN is below nothing and nothing is below a NaN. -/
def lt (x y : Binary64) : Bool := !x.isNaN && !y.isNaN && x.key < y.key

/-- The same double with the other sign. -/
def neg (x : Binary64) : Binary64 := ofFields (!x.negative) x.biased x.fraction

/-- Positive zero. -/
def zero : Binary64 := ofFields false 0 0

/-- Positive infinity. -/
def infinity : Binary64 := ofFields false topExponent 0

/-- The quiet NaN with only the top fraction bit set. -/
def nan : Binary64 := ofFields false topExponent (Nat.pow 2 51)

/-- A finite double without a fractional part. -/
def isIntegral (x : Binary64) : Bool :=
  x.isFinite && (decide (0 ≤ x.exponent) || x.significand % Nat.pow 2 (-x.exponent).toNat == 0)

end Binary64

end DftTaxonomy
