import Mathlib
import DftTaxonomy.Proofs.Comparison

/-!
# The value of a double

A finite double stands for a rational number: its significand times two to its
exponent, with its sign.  This file relates the library's operations on doubles
to those values.

* `Binary64.toRat` — the value of a finite double; both zeros are `0`;
* `Binary64.eq_iff_toRat_eq` — **IEEE equality of doubles that are not NaN is
  equality of their values**: the word order that `eq` compares and the values
  agree, the two zeros being the one place where different words have one
  value.

The proof of the second follows the fields of the word: two words of one
magnitude have the same exponent and fraction, and two values of one magnitude
have the same exponent (a smaller exponent cannot make up for a larger one with
a significand below `2 ^ 53`), hence the same significand.
-/

namespace DftTaxonomy

namespace Binary64

variable {x y : Binary64}

/-- The magnitude of a finite double: its significand times two to its
exponent. -/
def absValue (x : Binary64) : ℚ := (x.significand : ℚ) * 2 ^ x.exponent

/-- The value of a finite double: its magnitude with its sign. -/
def toRat (x : Binary64) : ℚ := if x.negative then -x.absValue else x.absValue

theorem fraction_lt (x : Binary64) : x.fraction < fractionSpan :=
  Nat.mod_lt _ (by rw [fractionSpan_eq]; omega)

/-- The word without its sign is the biased exponent above the fraction. -/
theorem magnitude_eq (x : Binary64) : x.magnitude = x.biased * fractionSpan + x.fraction := by
  unfold magnitude biased fraction
  rw [signWeight_eq, fractionSpan_eq, exponentSpan_eq]
  omega

theorem significand_lt (x : Binary64) : x.significand < 2 ^ 53 := by
  have h := x.fraction_lt
  rw [fractionSpan_eq] at h
  unfold significand
  rw [fractionSpan_eq]
  split <;> omega

theorem significand_ge {x : Binary64} (h : x.biased ≠ 0) : 2 ^ 52 ≤ x.significand := by
  unfold significand
  rw [if_neg h, fractionSpan_eq]
  omega

/-- Of two doubles with one magnitude, neither has the smaller exponent: the
larger exponent doubles at least a significand of `2 ^ 52`, which the other
significand, below `2 ^ 53`, cannot reach. -/
theorem exponent_not_lt (h : x.absValue = y.absValue) : ¬ x.exponent < y.exponent := by
  intro hlt
  have hy : y.biased ≠ 0 := by
    intro h0
    have : x.exponent < -1074 := by simpa [exponent, h0] using hlt
    unfold exponent at this
    split at this <;> omega
  have hmy : (2 : ℚ) ^ 52 ≤ y.significand := by exact_mod_cast significand_ge hy
  have hmx : (x.significand : ℚ) < 2 ^ 53 := by exact_mod_cast x.significand_lt
  have hp : (0 : ℚ) < 2 ^ x.exponent := by positivity
  have h2 : (2 : ℚ) ≤ 2 ^ (y.exponent - x.exponent) := by
    calc (2 : ℚ) = 2 ^ (1 : ℤ) := by norm_num
      _ ≤ 2 ^ (y.exponent - x.exponent) := zpow_le_zpow_right₀ (by norm_num) (by omega)
  have hsplit : (2 : ℚ) ^ y.exponent = 2 ^ (y.exponent - x.exponent) * 2 ^ x.exponent := by
    rw [← zpow_add₀ two_ne_zero]
    ring_nf
  unfold absValue at h
  rw [hsplit, ← mul_assoc] at h
  have hcancel := mul_right_cancel₀ hp.ne' h
  have : (2 : ℚ) * 2 ^ 52 ≤ x.significand := by
    rw [hcancel]
    nlinarith
  linarith

/-- **Doubles of one magnitude have one exponent field and one fraction.** -/
theorem fields_eq_of_absValue_eq (h : x.absValue = y.absValue) :
    x.biased = y.biased ∧ x.fraction = y.fraction := by
  have he : x.exponent = y.exponent :=
    le_antisymm (not_lt.mp (exponent_not_lt h.symm)) (not_lt.mp (exponent_not_lt h))
  unfold absValue at h
  rw [he] at h
  have hs : x.significand = y.significand := by
    exact_mod_cast mul_right_cancel₀ (zpow_ne_zero _ two_ne_zero) h
  have hfx := x.fraction_lt
  have hfy := y.fraction_lt
  unfold significand at hs
  unfold exponent at he
  rw [fractionSpan_eq] at hs hfx hfy
  split at hs <;> split at hs <;> split at he <;> omega

/-- Two doubles have one magnitude exactly when their words do, sign aside. -/
theorem absValue_eq_absValue_iff : x.absValue = y.absValue ↔ x.magnitude = y.magnitude := by
  constructor
  · intro h
    obtain ⟨hb, hf⟩ := fields_eq_of_absValue_eq h
    rw [magnitude_eq, magnitude_eq, hb, hf]
  · intro h
    have hfx := x.fraction_lt
    have hfy := y.fraction_lt
    rw [magnitude_eq, magnitude_eq, fractionSpan_eq] at h
    rw [fractionSpan_eq] at hfx hfy
    have hb : x.biased = y.biased := by omega
    have hf : x.fraction = y.fraction := by omega
    simp only [absValue, significand, exponent, hb, hf]

/-- A double has significand zero exactly when its word is zero, sign aside. -/
theorem significand_eq_zero_iff : x.significand = 0 ↔ x.magnitude = 0 := by
  rw [magnitude_eq]
  unfold significand
  rw [fractionSpan_eq]
  split <;> omega

/-- A double has magnitude zero exactly when its word is zero, sign aside. -/
theorem absValue_eq_zero_iff : x.absValue = 0 ↔ x.magnitude = 0 := by
  rw [← significand_eq_zero_iff]
  unfold absValue
  rw [mul_eq_zero, or_iff_left (zpow_ne_zero _ two_ne_zero), Nat.cast_eq_zero]

theorem absValue_nonneg (x : Binary64) : 0 ≤ x.absValue := by
  unfold absValue
  positivity

/-- Equal places on the integer line: the same magnitude, and the same sign
unless both are zeros. -/
theorem key_eq_key_iff :
    x.key = y.key ↔ x.magnitude = y.magnitude ∧ (x.negative = y.negative ∨ x.magnitude = 0) := by
  unfold key
  cases x.negative <;> cases y.negative <;> simp <;> omega

/-- Equal values: the same magnitude, and the same sign unless both are zero. -/
theorem toRat_eq_toRat_iff :
    x.toRat = y.toRat ↔ x.absValue = y.absValue ∧ (x.negative = y.negative ∨ x.absValue = 0) := by
  have hx := x.absValue_nonneg
  have hy := y.absValue_nonneg
  unfold toRat
  -- values of opposite signs are equal only at zero
  cases x.negative <;> cases y.negative <;> simp
  · exact ⟨fun h => ⟨by linarith, by linarith⟩, fun ⟨h₁, h₂⟩ => by linarith⟩
  · exact ⟨fun h => ⟨by linarith, by linarith⟩, fun ⟨h₁, h₂⟩ => by linarith⟩

/-- **IEEE equality of doubles that are not NaN is equality of their values.** -/
theorem eq_iff_toRat_eq (hx : x.isNaN = false) (hy : y.isNaN = false) :
    x.eq y = true ↔ x.toRat = y.toRat := by
  have heq : x.eq y = true ↔ x.key = y.key := by simp [eq, hx, hy]
  rw [heq, key_eq_key_iff, toRat_eq_toRat_iff, absValue_eq_absValue_iff, absValue_eq_zero_iff]

/-! ### Integers as doubles -/

/-- Rounding to nearest gives the quotient when the division is exact. -/
theorem divNearestEven_of_dvd {a b : Nat} (hb : 0 < b) (h : b ∣ a) : divNearestEven a b = a / b := by
  have hr : a % b = 0 := Nat.mod_eq_zero_of_dvd h
  unfold divNearestEven
  simp [hr, hb]

/-- Rounding to nearest never lands below the quotient. -/
theorem le_divNearestEven (a b : Nat) : a / b ≤ divNearestEven a b := by
  unfold divNearestEven
  dsimp only
  split
  · omega
  · split
    · omega
    · split <;> omega

/-- At the exponent of its leading bit, a natural number's quotient has at
least fifty-three bits. -/
theorem scaledRatio_exact_ge {num L : Nat} (hlow : 2 ^ L ≤ num) :
    Nat.pow 2 52 ≤
      (scaledRatio num 1 ((L : Int) - 52)).1 / (scaledRatio num 1 ((L : Int) - 52)).2 := by
  unfold scaledRatio
  split
  · have hk : (-((L : Int) - 52)).toNat = 52 - L := by omega
    simp only [hk, Nat.div_one, Nat.pow_eq]
    calc 2 ^ 52 = 2 ^ L * 2 ^ (52 - L) := by rw [← pow_add]; congr 1; omega
      _ ≤ num * 2 ^ (52 - L) := Nat.mul_le_mul_right _ hlow
  · have hk : ((L : Int) - 52).toNat = L - 52 := by omega
    simp only [hk, Nat.one_mul, Nat.pow_eq]
    rw [Nat.le_div_iff_mul_le (by positivity)]
    calc 2 ^ 52 * 2 ^ (L - 52) = 2 ^ L := by rw [← pow_add]; congr 1; omega
      _ ≤ num := hlow

/-- The significand a natural number rounds to at the exponent of its leading
bit, before any carry into the next binade. -/
def roundedSignificand (n : Nat) : Nat :=
  divNearestEven (scaledRatio n 1 ((n.log2 : Int) - 52)).1 (scaledRatio n 1 ((n.log2 : Int) - 52)).2

/-- The rounded significand of a positive number has fifty-three bits, or is
`2 ^ 53` after rounding up. -/
theorem roundedSignificand_bounds {n : Nat} (hn : n ≠ 0) :
    Nat.pow 2 52 ≤ roundedSignificand n ∧ roundedSignificand n ≤ Nat.pow 2 53 := by
  have hlo := scaledRatio_exact_ge (Nat.log2_self_le hn)
  have hhi := scaledRatio_exact_lt (L := n.log2) Nat.lt_log2_self
  exact ⟨hlo.trans (le_divNearestEven _ _), (divNearestEven_le _ _).trans (by omega)⟩

/-- **An integer whose bits below its top fifty-three are zero rounds
exactly**: its significand has fifty-three bits and, scaled back, is the
number. -/
theorem roundedSignificand_of_dvd {n : Nat} (h : 2 ^ (n.log2 - 52) ∣ n) :
    roundedSignificand n < Nat.pow 2 53 ∧ roundedSignificand n * 2 ^ n.log2 = n * 2 ^ 52 := by
  have hhi := scaledRatio_exact_lt (L := n.log2) Nat.lt_log2_self
  unfold roundedSignificand at *
  unfold scaledRatio at *
  split
  · -- at most fifty-three bits: the number is shifted up, exactly
    rename_i hle
    have hk : (-((n.log2 : Int) - 52)).toNat = 52 - n.log2 := by omega
    rw [if_pos hle] at hhi
    simp only [hk, Nat.div_one, Nat.pow_eq] at hhi ⊢
    rw [divNearestEven_of_dvd (by omega) (Nat.one_dvd _), Nat.div_one]
    refine ⟨hhi, ?_⟩
    rw [Nat.mul_assoc, ← pow_add]
    congr 2
    omega
  · -- more bits: the number is divided by a power of two that divides it
    rename_i hle
    have hk : ((n.log2 : Int) - 52).toNat = n.log2 - 52 := by omega
    rw [if_neg hle] at hhi
    simp only [hk, Nat.one_mul, Nat.pow_eq] at hhi ⊢
    rw [divNearestEven_of_dvd (by positivity) h]
    refine ⟨hhi, ?_⟩
    have hsplit : 2 ^ n.log2 = 2 ^ (n.log2 - 52) * 2 ^ 52 := by
      rw [← pow_add]
      congr 1
      omega
    rw [hsplit, ← Nat.mul_assoc, Nat.div_mul_cancel h]

/-- The last step of rounding, for a significand of at least fifty-three bits
(`2 ^ 53` carries into the next exponent) at an exponent that neither
overflows nor falls below the normal range: a normal double with that exponent
and the significand's low bits. -/
theorem pack_eq (negative : Bool) (q : Int) {m₁ : Nat} (hlo : Nat.pow 2 52 ≤ m₁)
    (hq : q ≤ 969) (hq₀ : -1074 ≤ q) :
    (if 971 < (if m₁ = Nat.pow 2 53 then q + 1 else q) then ofFields negative topExponent 0
      else if (if m₁ = Nat.pow 2 53 then Nat.pow 2 52 else m₁) < Nat.pow 2 52 then
        ofFields negative 0 (if m₁ = Nat.pow 2 53 then Nat.pow 2 52 else m₁)
      else ofFields negative ((if m₁ = Nat.pow 2 53 then q + 1 else q) + 1075).toNat
        ((if m₁ = Nat.pow 2 53 then Nat.pow 2 52 else m₁) - Nat.pow 2 52)) =
      ofFields negative (if m₁ = Nat.pow 2 53 then (q + 1076).toNat else (q + 1075).toNat)
        (if m₁ = Nat.pow 2 53 then 0 else m₁ - Nat.pow 2 52) := by
  by_cases hc : m₁ = Nat.pow 2 53
  · have h971 : ¬ 971 < q + 1 := by omega
    have hexp : (q + 1 + 1075).toNat = (q + 1076).toNat := by omega
    simp [hc, h971, hexp]
  · have h971 : ¬ 971 < q := by omega
    simp [hc, h971, not_lt.mpr hlo]

/-- **A non-zero integer of at most 1022 bits is a normal double**: its sign,
the exponent field of its leading bit (one more after a carry, with a zero
fraction), and the low bits of its rounded significand. -/
theorem ofInt_eq_ofFields {i : Int} (hi : i ≠ 0) (hL : i.natAbs.log2 ≤ 1021) :
    ofInt i = ofFields (decide (i < 0))
      (if roundedSignificand i.natAbs = Nat.pow 2 53 then i.natAbs.log2 + 1024
        else i.natAbs.log2 + 1023)
      (if roundedSignificand i.natAbs = Nat.pow 2 53 then 0
        else roundedSignificand i.natAbs - Nat.pow 2 52) := by
  have hnum : i.natAbs ≠ 0 := by simpa using hi
  have hlo := (roundedSignificand_bounds hnum).1
  unfold ofInt ofRatio
  simp only [one_ne_zero, ↓reduceIte, hnum]
  have hlog1 : Nat.log2 1 = 0 := by decide
  simp only [hlog1, Nat.cast_zero, sub_zero]
  rw [if_pos (scaledRatio_start_ge (Nat.log2_self_le hnum))]
  have hq : max ((i.natAbs.log2 : Int) - 53 + 1) (-1074) = (i.natAbs.log2 : Int) - 52 := by
    omega
  rw [hq]
  refine (pack_eq _ _ hlo (by omega) (by omega)).trans ?_
  congr 1
  split <;> omega

/-- The sign bit of a word is the sign it was built with. -/
theorem negative_ofFields (negative : Bool) {b f : Nat} (hb : b < exponentSpan)
    (hf : f < fractionSpan) : (ofFields negative b f).negative = negative := by
  have hword := toNat_word_ofFields negative hb hf
  unfold Binary64.negative
  rw [hword, signWeight_eq]
  rw [fractionSpan_eq, exponentSpan_eq] at *
  cases negative <;> simp <;> omega

/-- **A non-zero integer of at most 1022 bits keeps its sign and has an exponent
field at least that of its leading bit.** -/
theorem ofInt_fields {i : Int} (hi : i ≠ 0) (hL : i.natAbs.log2 ≤ 1021) :
    (ofInt i).negative = decide (i < 0) ∧ i.natAbs.log2 + 1023 ≤ (ofInt i).biased ∧
      (ofInt i).isFinite = true := by
  have hnum : i.natAbs ≠ 0 := by simpa using hi
  obtain ⟨hlo, hhi⟩ := roundedSignificand_bounds hnum
  rw [ofInt_eq_ofFields hi hL]
  generalize roundedSignificand i.natAbs = m at hlo hhi ⊢
  simp only [show Nat.pow 2 52 = 4503599627370496 from rfl,
    show Nat.pow 2 53 = 9007199254740992 from rfl] at hlo hhi ⊢
  -- a carry into the next binade raises the exponent field by one
  by_cases hc : m = 9007199254740992
  · have hb : i.natAbs.log2 + 1024 < exponentSpan := by rw [exponentSpan_eq]; omega
    have hf : 0 < fractionSpan := by rw [fractionSpan_eq]; omega
    simp only [hc, if_true]
    rw [negative_ofFields _ hb hf]
    refine ⟨rfl, by rw [biased_ofFields _ hb hf]; omega, ?_⟩
    simp only [isFinite, biased_ofFields _ hb hf, topExponent_eq, bne_iff_ne, ne_eq]
    omega
  · have hb : i.natAbs.log2 + 1023 < exponentSpan := by rw [exponentSpan_eq]; omega
    have hf : m - 4503599627370496 < fractionSpan := by rw [fractionSpan_eq]; omega
    simp only [hc, if_false]
    rw [negative_ofFields _ hb hf]
    refine ⟨rfl, by rw [biased_ofFields _ hb hf], ?_⟩
    simp only [isFinite, biased_ofFields _ hb hf, topExponent_eq, bne_iff_ne, ne_eq]
    omega

/-- The magnitude of a normal double built from its fields. -/
theorem absValue_ofFields (negative : Bool) {b f : Nat} (hb₀ : b ≠ 0) (hb : b < exponentSpan)
    (hf : f < fractionSpan) :
    (ofFields negative b f).absValue = ((f + fractionSpan : Nat) : ℚ) * 2 ^ ((b : Int) - 1075) := by
  unfold absValue significand exponent
  rw [biased_ofFields _ hb hf, fraction_ofFields _ hb hf, if_neg hb₀, if_neg hb₀]

/-- **An integer whose bits below its top fifty-three are zero is a double of
its own value.** -/
theorem toRat_ofInt {i : Int} (hL : i.natAbs.log2 ≤ 1021) (hdvd : 2 ^ (i.natAbs.log2 - 52) ∣ i.natAbs) :
    (ofInt i).toRat = i := by
  by_cases hi : i = 0
  · subst hi
    have hzero : (ofInt 0).magnitude = 0 := by decide
    rw [toRat, absValue_eq_zero_iff.mpr hzero]
    simp
  have hnum : i.natAbs ≠ 0 := by simpa using hi
  obtain ⟨hexact_lt, hexact⟩ := roundedSignificand_of_dvd hdvd
  obtain ⟨hlo, -⟩ := roundedSignificand_bounds hnum
  have hc : roundedSignificand i.natAbs ≠ Nat.pow 2 53 := by omega
  have h52 : Nat.pow 2 52 = fractionSpan := rfl
  have hb : i.natAbs.log2 + 1023 < exponentSpan := by rw [exponentSpan_eq]; omega
  have hf : roundedSignificand i.natAbs - Nat.pow 2 52 < fractionSpan := by
    rw [fractionSpan_eq]
    rw [show Nat.pow 2 53 = 9007199254740992 from rfl] at hexact_lt
    rw [show Nat.pow 2 52 = 4503599627370496 from rfl]
    omega
  rw [ofInt_eq_ofFields hi hL, if_neg hc, if_neg hc, toRat,
    negative_ofFields _ hb hf, absValue_ofFields _ (by omega) hb hf]
  -- the rounded significand, scaled back by the exponent of the leading bit, is the number
  have hsig : roundedSignificand i.natAbs - Nat.pow 2 52 + fractionSpan = roundedSignificand i.natAbs := by
    rw [← h52]
    omega
  have hvalue : ((roundedSignificand i.natAbs : Nat) : ℚ) * 2 ^ ((i.natAbs.log2 : Int) - 52) =
      (i.natAbs : ℚ) := by
    have hcast : ((roundedSignificand i.natAbs : Nat) : ℚ) * 2 ^ i.natAbs.log2 =
        (i.natAbs : ℚ) * 2 ^ 52 := by exact_mod_cast hexact
    rw [zpow_sub₀ two_ne_zero, zpow_natCast, mul_div_assoc', hcast]
    field_simp
  have hexp : ((i.natAbs.log2 + 1023 : Nat) : Int) - 1075 = (i.natAbs.log2 : Int) - 52 := by omega
  rw [hsig, hexp, hvalue]
  cases hneg : decide (i < 0)
  · simp only [decide_eq_false_iff_not, not_lt] at hneg
    simp [Nat.cast_natAbs, abs_of_nonneg hneg]
  · simp only [decide_eq_true_eq] at hneg
    simp [Nat.cast_natAbs, abs_of_neg hneg]

/-- The magnitude is the absolute value. -/
theorem abs_toRat (x : Binary64) : |x.toRat| = x.absValue := by
  unfold toRat
  split <;> simp [abs_of_nonneg x.absValue_nonneg]

/-- **An integer that is the value of a double has no bits below its top
fifty-three**: a double is a significand below `2 ^ 53` times a power of two. -/
theorem dvd_of_toRat_eq {x : Binary64} {i : Int} (h : x.toRat = i) :
    2 ^ (i.natAbs.log2 - 52) ∣ i.natAbs := by
  by_cases hi : i.natAbs = 0
  · rw [hi]
    exact dvd_zero _
  have habs : (i.natAbs : ℚ) = (x.significand : ℚ) * 2 ^ x.exponent := by
    rw [Nat.cast_natAbs, Int.cast_abs, ← h, abs_toRat, absValue]
  rcases le_or_gt 0 x.exponent with he | he
  · -- a non-negative exponent: the integer is the significand shifted up
    obtain ⟨k, hk⟩ := Int.eq_ofNat_of_zero_le he
    rw [hk, zpow_natCast] at habs
    have hnat : i.natAbs = x.significand * 2 ^ k := by exact_mod_cast habs
    have hlt : i.natAbs < 2 ^ (53 + k) := by
      rw [hnat, pow_add]
      exact Nat.mul_lt_mul_of_pos_right x.significand_lt (by positivity)
    have hL : i.natAbs.log2 < 53 + k := (Nat.log2_lt hi).mpr hlt
    exact (Nat.pow_dvd_pow 2 (by omega : i.natAbs.log2 - 52 ≤ k)).trans
      (Dvd.intro_left _ hnat.symm)
  · -- a negative exponent: the integer is below the significand, so below `2 ^ 53`
    obtain ⟨k, hk⟩ : ∃ k : Nat, x.exponent = -(k : Int) := ⟨(-x.exponent).toNat, by omega⟩
    rw [hk, zpow_neg, zpow_natCast] at habs
    have hnat : i.natAbs * 2 ^ k = x.significand := by
      have hq : (i.natAbs : ℚ) * 2 ^ k = x.significand := by
        rw [habs]
        field_simp
      exact_mod_cast hq
    have hlt : i.natAbs < 2 ^ 53 :=
      calc i.natAbs ≤ i.natAbs * 2 ^ k := Nat.le_mul_of_pos_right _ (by positivity)
        _ = x.significand := hnat
        _ < 2 ^ 53 := x.significand_lt
    have hL : i.natAbs.log2 < 53 := (Nat.log2_lt hi).mpr hlt
    rw [show i.natAbs.log2 - 52 = 0 by omega, pow_zero]
    exact one_dvd _

/-- IEEE-equal doubles have one exponent field. -/
theorem biased_eq_of_eq (h : x.eq y = true) : x.biased = y.biased := by
  have hkey : x.key = y.key := by
    simp only [eq, Bool.and_eq_true, Bool.not_eq_true', beq_iff_eq] at h
    exact h.2
  have hmag := (key_eq_key_iff.mp hkey).1
  have hfx := x.fraction_lt
  have hfy := y.fraction_lt
  rw [magnitude_eq, magnitude_eq, fractionSpan_eq] at hmag
  rw [fractionSpan_eq] at hfx hfy
  omega

end Binary64

end DftTaxonomy
