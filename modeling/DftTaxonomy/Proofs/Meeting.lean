import Mathlib
import DftTaxonomy.Proofs.Overlap
import DftTaxonomy.Proofs.DoubleValue

/-!
# How values meet

`Json.meets` is the one comparison every classifier runs, and it is built from
four different tests: strings by their folded text, numbers as doubles, a
boolean against a number as `1` or `0`, and everything else by sameness, where
arrays compare item by item and objects as maps.  This file shows that the four
fit together into an equivalence on every value a JSON document can hold, so
the shadowing and overlap tests, which lean on it, reason about classes of
values and not about one test at a time.

It then asks what meeting means for numbers.  Numbers meet when their doubles
are equal, and an integer is rounded to the nearest double first.  Numbers of
one value always meet: an integer equal to a double's value has no bits below
its top fifty-three, so its rounding is exact.  The converse holds while every
integer is within `2 ^ 53`, and fails beyond: `2 ^ 53 + 1` rounds to `2 ^ 53`,
so the two meet though they differ.  A boolean meets exactly the numbers that
denote `1` or `0`, at any size, since a large integer keeps an exponent far
beyond that of `1`.

* `Json.Doc` — a value a JSON document can hold, with its proof of that;
* `Json.meets_equivalence` — **meeting is reflexive, symmetric and transitive
  on document values**, across all four tests;
* `Number.toRat`, `Number.IsJson`, `Number.Exact` — the value a number
  denotes, the numbers a document holds, and those its double keeps exactly;
* `Json.numbers_meet_by_value` — **numbers of one value meet, and numbers kept
  exactly meet only when of one value; a boolean meets the numbers denoting
  `1` or `0`**;
* `Json.rounded_integers_meet` — two integers beyond `2 ^ 53` that round to
  one double meet.
-/

namespace DftTaxonomy

namespace Json

/-- A value a JSON document can hold: no NaN anywhere, and every object with
distinct keys. -/
def Doc : Type := {v : Json // v.WellFormed}

/-- **Meeting is an equivalence on document values.**  Reflexivity needs the
value to be well formed (a NaN meets nothing, an object with a repeated key
fails its own second entry); symmetry needs it of one side; transitivity holds
of every value. -/
theorem meets_equivalence : Equivalence fun u v : Doc => u.1.meets v.1 = true where
  refl u := u.2.meets_self
  symm {u _} h := u.2.meets_symm h
  trans h₁ h₂ := meets_trans h₁ h₂

end Json

namespace Number

/-- The value a number denotes: an integer itself, a double its value. -/
def toRat : Number → ℚ
  | .int i => i
  | .float x => x.toRat

/-- A number a JSON document holds: an integer of the signed or unsigned 64-bit
range, or a finite double. -/
def IsJson : Number → Prop
  | .int i => -2 ^ 63 ≤ i ∧ i < 2 ^ 64
  | .float x => x.isFinite = true

/-- A number its double keeps exactly: a double, or an integer of at most
`2 ^ 53` in magnitude. -/
def Exact : Number → Prop
  | .int i => i.natAbs ≤ 2 ^ 53
  | .float _ => True

/-- An integer a document holds has at most sixty-four bits. -/
theorem IsJson.log2_le {i : Int} (h : (Number.int i).IsJson) : i.natAbs.log2 ≤ 1021 := by
  obtain ⟨hlo, hhi⟩ := h
  by_cases hi : i.natAbs = 0
  · simp [hi]
  · have hlt : i.natAbs.log2 < 64 := (Nat.log2_lt hi).mpr (by omega)
    omega

/-- No number a document holds is a NaN as a double. -/
theorem IsJson.isNaN {n : Number} (h : n.IsJson) : n.toBinary64.isNaN = false := by
  cases n with
  | int i => exact Binary64.isNaN_ofInt i
  | float x => exact Binary64.isNaN_of_isFinite h

/-- An integer of at most `2 ^ 53` in magnitude has no bits below its top
fifty-three: only `2 ^ 53` itself has more than fifty-three bits. -/
theorem dvd_of_natAbs_le {i : Int} (h : i.natAbs ≤ 2 ^ 53) :
    2 ^ (i.natAbs.log2 - 52) ∣ i.natAbs := by
  by_cases hi : i.natAbs = 0
  · rw [hi]
    exact dvd_zero _
  have hL : i.natAbs.log2 < 54 := (Nat.log2_lt hi).mpr (by omega)
  by_cases h53 : i.natAbs.log2 = 53
  · have hge := Nat.log2_self_le hi
    rw [h53] at hge ⊢
    rw [show i.natAbs = 2 ^ 53 by omega]
    exact Nat.pow_dvd_pow 2 (by norm_num)
  · rw [show i.natAbs.log2 - 52 = 0 by omega, pow_zero]
    exact one_dvd _

/-- A number its double keeps has its double's value. -/
theorem toRat_toBinary64 {n : Number} (h : n.IsJson) (hexact : n.Exact) :
    n.toBinary64.toRat = n.toRat := by
  cases n with
  | int i => exact Binary64.toRat_ofInt h.log2_le (dvd_of_natAbs_le hexact)
  | float x => rfl

/-- An integer equal to the value of a finite double keeps its value as a
double. -/
theorem toRat_ofInt_of_eq {i : Int} {y : Binary64} (hi : (Number.int i).IsJson)
    (h : y.toRat = i) : (Binary64.ofInt i).toRat = i :=
  Binary64.toRat_ofInt hi.log2_le (Binary64.dvd_of_toRat_eq h)

/-- **Numbers of one value have doubles of one value**, whatever their kinds. -/
theorem toRat_toBinary64_eq {a b : Number} (ha : a.IsJson) (hb : b.IsJson)
    (h : a.toRat = b.toRat) : a.toBinary64.toRat = b.toBinary64.toRat := by
  cases a with
  | int i =>
    cases b with
    | int j =>
      have hq : (i : ℚ) = j := h
      have hij : i = j := by exact_mod_cast hq
      rw [hij]
    | float y =>
      show (Binary64.ofInt i).toRat = y.toRat
      rw [toRat_ofInt_of_eq ha h.symm]
      exact h
  | float x =>
    cases b with
    | int j =>
      show x.toRat = (Binary64.ofInt j).toRat
      rw [toRat_ofInt_of_eq hb h]
      exact h
    | float y => exact h

end Number

namespace Json

/-- Numbers a document holds meet exactly when their doubles have one value. -/
theorem meets_num_iff {a b : Number} (ha : a.IsJson) (hb : b.IsJson) :
    meets (.num a) (.num b) = true ↔ a.toBinary64.toRat = b.toBinary64.toRat := by
  show a.toBinary64.eq b.toBinary64 = true ↔ _
  exact Binary64.eq_iff_toRat_eq ha.isNaN hb.isNaN

/-- The double of a boolean has the value `1` or `0`. -/
theorem toRat_boolNumber (t : Bool) : (boolNumber t).toRat = if t then 1 else 0 := by
  unfold boolNumber
  rw [Binary64.toRat_ofInt (by cases t <;> decide) (by cases t <;> decide)]
  cases t <;> simp

/-- The double of a boolean has an exponent field no larger than that of `1`. -/
theorem biased_boolNumber_le (t : Bool) : (boolNumber t).biased ≤ 1023 := by
  cases t
  · have h : (boolNumber false).biased = 0 := rfl
    omega
  · have h : (boolNumber true).biased = 1023 := rfl
    omega

/-- **A boolean meets exactly the numbers denoting `1` for true and `0` for
false.**  A number its double keeps compares by value; an integer beyond
`2 ^ 53` rounds to a double whose exponent field lies beyond that of `1`, so it
meets neither boolean, as it denotes neither value. -/
theorem meets_bool_num_iff (t : Bool) {n : Number} (hn : n.IsJson) :
    meets (.bool t) (.num n) = true ↔ n.toRat = if t then 1 else 0 := by
  have hb : (boolNumber t).isNaN = false := Binary64.isNaN_ofInt _
  show n.toBinary64.eq (boolNumber t) = true ↔ _
  rw [Binary64.eq_iff_toRat_eq hn.isNaN hb, toRat_boolNumber]
  by_cases hexact : n.Exact
  · rw [Number.toRat_toBinary64 hn hexact]
  cases n with
  | float x => exact absurd trivial hexact
  | int i =>
    have hbig : 2 ^ 53 < i.natAbs := by simpa [Number.Exact] using hexact
    have hi : i ≠ 0 := by
      rintro rfl
      simp at hbig
    have hL : 53 ≤ i.natAbs.log2 := (Nat.le_log2 (by omega)).mpr hbig.le
    obtain ⟨-, hbiased, -⟩ := Binary64.ofInt_fields hi hn.log2_le
    -- the rounded integer's exponent field is beyond that of `1`
    have hne : (Binary64.ofInt i).toRat ≠ (boolNumber t).toRat := by
      intro heq
      have hsame := Binary64.biased_eq_of_eq
        ((Binary64.eq_iff_toRat_eq (Binary64.isNaN_ofInt i) hb).mpr heq)
      have hsmall := biased_boolNumber_le t
      omega
    -- and the integer itself is neither `0` nor `1`
    have hval : (i : ℚ) ≠ if t then 1 else 0 := by
      cases t <;> simp <;> omega
    rw [toRat_boolNumber] at hne
    exact ⟨fun h => absurd h hne, fun h => absurd h hval⟩

/-- **Numbers meet by value, as far as doubles tell values apart.**  Two
numbers a JSON document holds meet when they denote one value, and only then
when each is a double or an integer within `2 ^ 53`; a boolean, on either
side, meets a number exactly when the number denotes `1` for true and `0` for
false. -/
theorem numbers_meet_by_value (a b : Number) (ha : a.IsJson) (hb : b.IsJson) :
    (a.toRat = b.toRat → meets (.num a) (.num b) = true) ∧
    (a.Exact → b.Exact → meets (.num a) (.num b) = true → a.toRat = b.toRat) ∧
    ∀ t : Bool, (meets (.bool t) (.num a) = true ↔ a.toRat = if t then 1 else 0) ∧
      (meets (.num a) (.bool t) = true ↔ a.toRat = if t then 1 else 0) := by
  refine ⟨fun h => (meets_num_iff ha hb).mpr (Number.toRat_toBinary64_eq ha hb h),
    fun hxa hxb h => ?_, fun t => ⟨meets_bool_num_iff t ha, meets_bool_num_iff t ha⟩⟩
  rw [← Number.toRat_toBinary64 ha hxa, ← Number.toRat_toBinary64 hb hxb]
  exact (meets_num_iff ha hb).mp h

/-- `true` meets the integer `1`, a number a document holds. -/
theorem true_meets_integer_one :
    (Number.int 1).IsJson ∧ meets (.bool true) (.num (.int 1)) = true :=
  ⟨⟨by norm_num, by norm_num⟩,
    (((numbers_meet_by_value (.int 1) (.int 1) ⟨by norm_num, by norm_num⟩
      ⟨by norm_num, by norm_num⟩).2.2 true).1.mpr (by simp [Number.toRat]))⟩

/-- `2 ^ 53 + 1` and `2 ^ 53` meet, though they differ: both round to the
double `2 ^ 53`. -/
theorem rounded_integers_meet :
    meets (.num (.int 9007199254740993)) (.num (.int 9007199254740992)) = true ∧
      (Number.int 9007199254740993).toRat ≠ (Number.int 9007199254740992).toRat :=
  ⟨rfl, by norm_num [Number.toRat]⟩

end Json

end DftTaxonomy
