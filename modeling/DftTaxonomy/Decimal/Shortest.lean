import DftTaxonomy.Binary64.Basic

/-!
# Shortest decimals

`Decimal.shortest` writes a finite double as `digits * 10 ^ exp10` with the
fewest significant digits that read back as that double.  The reals that read
back as a double form an interval around it (its ends belong to it when the
significand is even, because a tie reads as the even neighbour).  For one,
two, … seventeen digits the two neighbours of the double on that decimal grid
are tested against the interval; the first grid with a hit wins, of two hits
the nearer, and of two equally near the one a `Tie` names: the one with an
even last digit, or the one farther from zero.  If a point of a grid lies in
the interval, so does one of the two neighbours, so no shorter decimal is
missed.
-/

namespace DftTaxonomy

namespace Decimal

/-- Which of two decimals exactly as near a double a writer takes. -/
inductive Tie where
  /-- The one whose last digit is even. -/
  | even
  /-- The one farther from zero. -/
  | away
  deriving DecidableEq

/-- Compare `c * 10 ^ k` with `b * 2 ^ e`, exactly. -/
def compareScaled (c : Nat) (k : Int) (b : Nat) (e : Int) : Ordering :=
  compare (c * Nat.pow 10 k.toNat * Nat.pow 2 (-e).toNat) (b * Nat.pow 2 e.toNat * Nat.pow 10 (-k).toNat)

/-- `⌊m * 2 ^ q / 10 ^ k⌋`. -/
def floorScaled (m : Nat) (q k : Int) : Nat :=
  (m * Nat.pow 2 q.toNat * Nat.pow 10 (-k).toNat) / (Nat.pow 2 (-q).toNat * Nat.pow 10 k.toNat)

/-- Raise `e` while `10 ^ (e + 1) ≤ m * 2 ^ q`, at most `fuel` times. -/
def raiseExponent (m : Nat) (q : Int) : Nat → Int → Int
  | 0, e => e
  | fuel + 1, e =>
    if compareScaled 1 (e + 1) m q != .gt then raiseExponent m q fuel (e + 1) else e

/-- Lower `e` while `m * 2 ^ q < 10 ^ e`, at most `fuel` times. -/
def lowerExponent (m : Nat) (q : Int) : Nat → Int → Int
  | 0, e => e
  | fuel + 1, e =>
    if compareScaled 1 e m q == .gt then lowerExponent m q fuel (e - 1) else e

/-- `⌊log₁₀ (m * 2 ^ q)⌋` for `m > 0`: an estimate from the bit length with
`log₁₀ 2 ≈ 78913 / 2 ^ 18`, corrected by exact comparisons. -/
def decimalExponent (m : Nat) (q : Int) : Int :=
  let estimate : Int := ((Nat.log2 m : Int) + q) * 78913 / 262144
  raiseExponent m q 4 (lowerExponent m q 4 estimate)

/-- Strip trailing zeros from `digits`, raising the exponent to match. -/
def trimZeros : Nat → Nat → Int → Nat × Int
  | 0, digits, exp10 => (digits, exp10)
  | fuel + 1, digits, exp10 =>
    if digits != 0 && digits % 10 == 0 then trimZeros fuel (digits / 10) (exp10 + 1)
    else (digits, exp10)

/-- The interval of reals reading back as `m * 2 ^ q`, scaled by `2 ^ (q - 2)`:
its lower end, its upper end, and whether the ends belong to it. -/
structure Interval where
  low : Nat
  high : Nat
  closed : Bool

/-- The reading-back interval of a positive finite double.  The lower gap is
half as wide at a power of two above the smallest normal exponent. -/
def interval (x : Binary64) : Interval :=
  let m := x.significand
  let low := if x.fraction = 0 ∧ 1 < x.biased then 4 * m - 1 else 4 * m - 2
  ⟨low, 4 * m + 2, m % 2 == 0⟩

/-- Whether `d * 10 ^ k` lies at or above the interval's lower end. -/
def aboveLow (iv : Interval) (q : Int) (d : Nat) (k : Int) : Bool :=
  match compareScaled d k iv.low (q - 2) with
  | .gt => true
  | .eq => iv.closed
  | .lt => false

/-- Whether `d * 10 ^ k` lies at or below the interval's upper end. -/
def belowHigh (iv : Interval) (q : Int) (d : Nat) (k : Int) : Bool :=
  match compareScaled d k iv.high (q - 2) with
  | .lt => true
  | .eq => iv.closed
  | .gt => false

/-- The decimal of `n` significant digits nearest the double and inside its
interval, if one of its two grid neighbours is inside; `tie` picks between
two equally near. -/
def onGrid (tie : Tie) (x : Binary64) (e10 : Int) (n : Nat) : Option (Nat × Int) :=
  let m := x.significand
  let q := x.exponent
  let iv := interval x
  let k := e10 - (n : Int) + 1
  let below := floorScaled m q k
  let above := below + 1
  let belowIn := aboveLow iv q below k
  let aboveIn := belowHigh iv q above k
  if belowIn && aboveIn then
    match compareScaled (2 * below + 1) k (8 * m) (q - 2) with
    | .gt => some (below, k)
    | .lt => some (above, k)
    | .eq =>
      match tie with
      | .even => some (if below % 2 == 0 then below else above, k)
      | .away => some (above, k)
  else if belowIn then some (below, k)
  else if aboveIn then some (above, k)
  else none

/-- Try grids of `n`, `n + 1`, … significant digits, `fuel` of them. -/
def firstGrid (tie : Tie) (x : Binary64) (e10 : Int) : Nat → Nat → Option (Nat × Int)
  | 0, _ => none
  | fuel + 1, n =>
    match onGrid tie x e10 n with
    | some hit => some hit
    | none => firstGrid tie x e10 fuel (n + 1)

/-- The shortest decimal `(digits, exp10)` reading back as the finite double
`x`, with no trailing zero in `digits`; zero is `(0, 0)`.  Of two shortest
decimals equally near `x`, `tie` chooses. -/
def shortest (tie : Tie) (x : Binary64) : Nat × Int :=
  if x.significand = 0 then (0, 0)
  else
    let e10 := decimalExponent x.significand x.exponent
    match firstGrid tie x e10 17 1 with
    | some (d, k) => trimZeros 20 d k
    | none => (floorScaled x.significand x.exponent (e10 - 16), e10 - 16)

end Decimal

end DftTaxonomy
